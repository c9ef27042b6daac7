/-!
# Whole numbers

The 64-bit ranges that amounts of the gateway live in, and decimal numerals. Arithmetic is done in
the unbounded integers; a result that has to stay in range is clamped or checked.
-/
namespace TokenConsole.Number

def minInt64 : Int := -9223372036854775808

def maxInt64 : Int := 9223372036854775807

def maxNat64 : Nat := 18446744073709551615

def twoTo (exponent : Nat) : Nat := Nat.pow 2 exponent

def tenTo (exponent : Nat) : Nat := Nat.pow 10 exponent

/-- The nearest number in the signed 64-bit range. -/
def clampInt64 (n : Int) : Int := max minInt64 (min n maxInt64)

/-- The number itself, if it is in the signed 64-bit range. -/
def checkInt64 (n : Int) : Option Int :=
  if minInt64 ≤ n ∧ n ≤ maxInt64 then some n else none

/-- The value of a string of decimal digits. -/
def ofDigits (ds : List Char) : Nat :=
  ds.foldl (fun n d => 10 * n + (d.toNat - '0'.toNat)) 0

/-- The value of a numeral of one or more decimal digits and nothing else. -/
def numeral? (ds : List Char) : Option Nat :=
  if ds ≠ [] ∧ ds.all Char.isDigit then some (ofDigits ds) else none

/-- A numeral with an optional plus sign, if it is in the unsigned 64-bit range. -/
def nat64? (s : List Char) : Option Nat :=
  let ds := match s with
    | '+' :: r => r
    | _ => s
  (numeral? ds).filter (· ≤ maxNat64)

/-- A numeral with an optional sign, if it is in the signed 64-bit range. -/
def int64? (s : List Char) : Option Int :=
  let n := match s with
    | '+' :: r => (numeral? r).map Int.ofNat
    | '-' :: r => (numeral? r).map fun n => -Int.ofNat n
    | _ => (numeral? s).map Int.ofNat
  n.bind checkInt64

/-- At least `width` decimal digits, with zeros in front. -/
def padded (width : Nat) (n : Nat) : String :=
  let ds := (toString n).toList
  String.ofList (List.replicate (width - ds.length) '0' ++ ds)

end TokenConsole.Number
