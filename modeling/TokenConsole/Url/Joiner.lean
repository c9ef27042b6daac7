import TokenConsole.Text.CodeRange
import TokenConsole.Text.Normal
import TokenConsole.Url.LabelTable

/-!
# Joiners in labels

The two joiners are not seen, so a label may hold them only where they make a difference: after a
mark that takes the vowel from a consonant, and the one that keeps letters apart also between
letters that would join.
-/
namespace TokenConsole.Url

open TokenConsole.Text (combiningClass inRanges)

def keepsApart : Char := '\u200C'

def joins : Char := '\u200D'

/-- The class of the marks that take the vowel from a consonant. -/
def vowelKillerClass : Nat := 9

/-- The nearest character that is not transparent is one of those in the ranges. -/
def meetsJoining (ranges : List (Nat × Nat)) (s : List Char) : Bool :=
  match s.dropWhile (inRanges transparentRanges) with
  | c :: _ => inRanges ranges c
  | [] => false

/-- Whether a joiner may stand between the characters before it, the nearest first, and those after
it. -/
def mayStand (joiner : Char) (before after : List Char) : Bool :=
  match before with
  | [] => false
  | c :: _ =>
    combiningClass c == vowelKillerClass ||
      (joiner == keepsApart && meetsJoining joinsAfterRanges before &&
        meetsJoining joinsBeforeRanges after)

/-- Whether every joiner of a text may stand where it stands, after the characters before the text,
the nearest first. -/
def joinersStand (before : List Char) : List Char → Bool
  | [] => true
  | c :: rest =>
    ((c != keepsApart && c != joins) || mayStand c before rest) && joinersStand (c :: before) rest

end TokenConsole.Url
