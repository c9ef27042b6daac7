import TokenConsole.Calendar.Rfc3339
import TokenConsole.Number.Radix
import TokenConsole.Number.Reading

/-!
# TOML scalars

Numbers, truth values and dates, written without quotes. Underscores may stand between digits.
-/
namespace TokenConsole.Toml

open TokenConsole.Number

inductive Scalar where
  | boolean (b : Bool)
  | integer (n : Int)
  /-- A floating point number; nothing asks for its value. -/
  | float
  /-- A date, a time or both; nothing asks for its value. -/
  | datetime
  deriving DecidableEq, Repr

/-- The digits of a run in which single underscores may stand between digits. -/
def digitRun? (isDigit : Char → Bool) : List Char → Option (List Char)
  | [] => none
  | [c] => if isDigit c then some [c] else none
  | c :: '_' :: rest =>
    if isDigit c then (digitRun? isDigit rest).map (c :: ·) else none
  | c :: rest => if isDigit c then (digitRun? isDigit rest).map (c :: ·) else none

/-- Digits of which the first is no zero, unless it stands alone. -/
def decimalRun? (s : List Char) : Option (List Char) :=
  (digitRun? Char.isDigit s).filter fun ds => ds.head? ≠ some '0' || ds.length = 1

/-- The whole numbers that can be held: those of 128 bits, with or without a sign. -/
def isHeld (n : Int) : Bool := -(twoTo 127 : Int) ≤ n && n < (twoTo 128 : Int)

def integer? (s : List Char) : Option Int :=
  let n : Option Int := match s with
    | '0' :: 'x' :: ds => (digitRun? isHexDigit ds).map fun ds => (ofRadix 16 ds : Int)
    | '0' :: 'o' :: ds => (digitRun? isOctalDigit ds).map fun ds => (ofRadix 8 ds : Int)
    | '0' :: 'b' :: ds => (digitRun? isBinaryDigit ds).map fun ds => (ofRadix 2 ds : Int)
    | s =>
      let (negative, ds) := takeSign s
      (decimalRun? ds).map fun ds =>
        if negative then -(ofDigits ds : Int) else (ofDigits ds : Int)
  n.filter isHeld

/-- Whether a text is a floating point number that is not too large. -/
def isFloat (s : List Char) : Bool :=
  let (_, body) := takeSign s
  if body = ['i', 'n', 'f'] ∨ body = ['n', 'a', 'n'] then true
  else
    let isExponent (c : Char) : Bool := c == 'e' || c == 'E'
    let mantissa := body.takeWhile (!isExponent ·)
    let exponent := body.dropWhile (!isExponent ·)
    let whole := mantissa.takeWhile (· != '.')
    let fraction := mantissa.dropWhile (· != '.')
    let partsAreDigits := (decimalRun? whole).isSome &&
      (fraction = [] || (digitRun? Char.isDigit (fraction.drop 1)).isSome) &&
      (exponent = [] || (digitRun? Char.isDigit (takeSign (exponent.drop 1)).2).isSome)
    partsAreDigits && (fraction ≠ [] || exponent ≠ []) &&
      (readFinite? (s.filter (· != '_'))).isSome

/-- What follows a day, if one stands first. -/
def day? (s : List Char) : Option (List Char) := do
  let (year, s) ← Calendar.Rfc3339.digits 4 s
  let s ← Calendar.Rfc3339.expect '-' s
  let (month, s) ← Calendar.Rfc3339.digits 2 s
  let s ← Calendar.Rfc3339.expect '-' s
  let (day, s) ← Calendar.Rfc3339.digits 2 s
  if (Calendar.Day.mk year month day).isValid then some s else none

/-- What follows a time of day, if one stands first. Seconds may be left out. -/
def time? (s : List Char) : Option (List Char) := do
  let (hour, s) ← Calendar.Rfc3339.digits 2 s
  let s ← Calendar.Rfc3339.expect ':' s
  let (minute, s) ← Calendar.Rfc3339.digits 2 s
  if 23 < hour ∨ 59 < minute then none
  else match s with
    | ':' :: s => do
      let (second, s) ← Calendar.Rfc3339.digits 2 s
      let (_, s) ← Calendar.Rfc3339.fraction s
      if 60 < second then none else some s
    | s => some s

def isOffset (s : List Char) : Bool :=
  match s with
  | ['Z'] | ['z'] => true
  | sign :: rest => (sign == '+' || sign == '-') && time? rest == some [] && rest.length == 5
  | [] => false

/-- Whether a text is a date, a time, or both with or without an offset. -/
def isDatetime (s : List Char) : Bool :=
  match day? s with
  | some [] => true
  | some rest =>
    match (Calendar.Rfc3339.separator rest).bind time? with
    | some rest => rest = [] || isOffset rest
    | none => false
  | none => time? s == some []

def scalar? (s : List Char) : Option Scalar :=
  if s = "true".toList then some (.boolean true)
  else if s = "false".toList then some (.boolean false)
  else match integer? s with
    | some n => some (.integer n)
    | none => if isFloat s then some .float else if isDatetime s then some .datetime else none

end TokenConsole.Toml
