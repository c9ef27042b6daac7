import TokenConsole.Text.CodeRange
import TokenConsole.Text.DirectionTable

/-!
# The direction of labels

Where a label of a domain runs from right to left, each label has to run one way, so that the parts
of the domain keep their places when it is shown.
-/
namespace TokenConsole.Url

open TokenConsole.Text

inductive Direction where
  | left
  /-- Letters that run from right to left. -/
  | right
  | arabicDigit
  | europeanDigit
  /-- Marks, which run as the character before them. -/
  | attached
  | neutral
  deriving DecidableEq, Repr

def direction (c : Char) : Direction :=
  if c.isLower then .left
  else if inRanges rightRanges c then .right
  else if inRanges arabicDigitRanges c then .arabicDigit
  else if inRanges europeanDigitRanges c then .europeanDigit
  else if inRanges attachedRanges c then .attached
  else if inRanges neutralRanges c then .neutral
  else .left

/-- Whether a label has something that runs from right to left. -/
def runsRight (label : List Char) : Bool :=
  label.any fun c => direction c == .right || direction c == .arabicDigit

/-- Whether a label runs one way. A label from the right has no letters from the left and not both
kinds of digits; it ends, marks apart, in a letter or a digit. A label from the left has no letters
from the right and no Arabic digits; it ends in a letter or a European digit. -/
def runsOneWay (label : List Char) : Bool :=
  let ds := label.map direction
  let ending := (ds.reverse.dropWhile (· == .attached)).head?
  match ds with
  | [] => true
  | .right :: _ =>
    !ds.contains .left && !(ds.contains .arabicDigit && ds.contains .europeanDigit) &&
      ending != some .neutral
  | .left :: _ =>
    !ds.contains .right && !ds.contains .arabicDigit && ending != some .neutral
  | _ => false

/-- Whether labels may stand in one domain. -/
def runTogether (labels : List (List Char)) : Bool :=
  !labels.any runsRight || labels.all runsOneWay

end TokenConsole.Url
