/-!
# Parts of a text

A text cut at its separators. There is one part more than there are separators, so an empty text
has one part, which is empty.
-/
namespace TokenConsole.Text

/-- The parts between the characters that `p` accepts. -/
def splitWhere (p : Char → Bool) : List Char → List (List Char)
  | [] => [[]]
  | c :: rest =>
    if p c then [] :: splitWhere p rest
    else
      match splitWhere p rest with
      | [] => [[c]]
      | part :: parts => (c :: part) :: parts

/-- What stands before and after the first character that `p` accepts. -/
def cutWhere? (p : Char → Bool) (s : List Char) : Option (List Char × List Char) :=
  match s.dropWhile fun c => !p c with
  | [] => none
  | _ :: after => some (s.takeWhile fun c => !p c, after)

/-- What stands before and after the last character that `p` accepts. -/
def cutLastWhere? (p : Char → Bool) (s : List Char) : Option (List Char × List Char) :=
  (cutWhere? p s.reverse).map fun (after, before) => (before.reverse, after.reverse)

end TokenConsole.Text
