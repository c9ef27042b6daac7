import TokenConsole.Number.Binary64
import TokenConsole.Number.Whole

/-!
# Reading floating point numbers

A numeral has digits before or after a point, an optional sign and an optional exponent, and stands
for the nearest number.
-/
namespace TokenConsole.Number

/-- The sign of a numeral and the rest of it. -/
def takeSign : List Char → Bool × List Char
  | '+' :: rest => (false, rest)
  | '-' :: rest => (true, rest)
  | s => (false, s)

/-- The exponent at the end of a numeral, zero if there is none. -/
def exponent? : List Char → Option Int
  | [] => some 0
  | c :: rest =>
    if c = 'e' ∨ c = 'E' then
      let (negative, ds) := takeSign rest
      (numeral? ds).map fun n => if negative then -(n : Int) else n
    else none

/-- The finite number that a text denotes. -/
def readFinite? (s : List Char) : Option Binary64 := do
  let (negative, s) := takeSign s
  let whole := s.takeWhile Char.isDigit
  let s := s.dropWhile Char.isDigit
  let (fraction, s) := match s with
    | '.' :: r => (r.takeWhile Char.isDigit, r.dropWhile Char.isDigit)
    | _ => ([], s)
  if whole = [] ∧ fraction = [] then none
  else
    let e ← exponent? s
    Binary64.ofDecimal? negative (ofDigits (whole ++ fraction)) (e - fraction.length)

end TokenConsole.Number
