import TokenConsole.Number.Shortest
import TokenConsole.Number.Whole

/-!
# JSON numbers

A numeral stands for a whole number when it is written as one and 64 bits hold it, and otherwise
for a binary floating point number. Minus zero is a floating point number.
-/
namespace TokenConsole.Json

open TokenConsole.Number

/-- A numeral as written: a sign, digits, and maybe a fraction and an exponent. -/
structure Numeral where
  negative : Bool
  whole : List Char
  fraction : Option (List Char)
  /-- The sign of the exponent and its digits. -/
  exponent : Option (Bool × List Char)
  deriving DecidableEq, Repr

/-- The number that a numeral stands for. -/
inductive Amount where
  | whole (n : Int)
  | float (x : Binary64)
  deriving DecidableEq, Repr

namespace Numeral

/-- The leading digits of a numeral that an unsigned 64-bit number holds, read on from `n`, and the
digits that are left. -/
def absorb (n : Nat) : List Char → Nat × List Char
  | [] => (n, [])
  | d :: rest =>
    let m := 10 * n + (d.toNat - '0'.toNat)
    if m ≤ maxNat64 then absorb m rest else (n, d :: rest)

/-- The significand of a numeral and the power of ten that it is scaled by. Digits of the whole
part that do not fit each count for a power of ten; digits of the fraction that do not fit are
dropped. -/
def significand (s : Numeral) : Nat × Int :=
  let (n, unread) := absorb 0 s.whole
  let fraction := s.fraction.getD []
  let (m, dropped) := absorb n fraction
  (m, (unread.length : Int) - ((fraction.length - dropped.length : Nat) : Int))

/-- Exponents are held in 32 bits. -/
def exponentLimit : Nat := 2147483647

def power (n : Nat) : Option Binary64 := Binary64.ofDecimal? false 1 n

/-- The largest power of ten that the format holds. -/
def maxPower : Nat := 308

/-- Divides a number of 64 bits by a power of ten, in steps that the format can hold. Two steps
leave nothing of it. -/
def scaleDown (x : Binary64) (n : Nat) : Option Binary64 :=
  if n ≤ maxPower then (power n).bind x.div?
  else if n ≤ 2 * maxPower then do
    let y ← (power maxPower).bind x.div?
    (power (n - maxPower)).bind y.div?
  else some (Binary64.zero false)

/-- The number `m · 10 ^ e`, rounded at each step; none if it is too large. -/
def scaled (m : Nat) (e : Int) : Option Binary64 :=
  match Binary64.round? false m 1 with
  | none => none
  | some x =>
    if e < 0 then scaleDown x e.natAbs
    else if e ≤ maxPower then (power e.toNat).bind x.mul?
    else if x.isZero then some x
    else none

/-- The floating point number of a numeral. -/
def float? (s : Numeral) : Option Binary64 :=
  let (m, e) := s.significand
  let x := match s.exponent with
    | none => scaled m e
    | some (negative, ds) =>
      let n := ofDigits ds
      if exponentLimit < n then
        if m ≠ 0 ∧ !negative then none else some (Binary64.zero false)
      else
        let total := if negative then e - n else e + n
        scaled m (max (-exponentLimit - 1) (min total exponentLimit))
  x.map fun x => { x with negative := s.negative }

/-- What a numeral stands for; none if it is too large for a floating point number. -/
def amount? (s : Numeral) : Option Amount :=
  let n := ofDigits s.whole
  if s.fraction.isSome || s.exponent.isSome then s.float?.map .float
  else if !s.negative && n ≤ maxNat64 then some (.whole n)
  else if s.negative && n ≠ 0 && minInt64 ≤ -(n : Int) then some (.whole (-(n : Int)))
  else s.float?.map .float

end Numeral

/-- Puts a point into digits, `after` places before their end. -/
def withPoint (digits : List Char) (after : Nat) : List Char :=
  let width := digits.length
  if after < width then digits.take (width - after) ++ '.' :: digits.drop (width - after)
  else '0' :: '.' :: (List.replicate (after - width) '0' ++ digits)

/-- The digits of a decimal without the zeros at their end, and the power of ten of the first. -/
def leadingDigits (d : Decimal) : List Char × Int :=
  let ds := Nat.toDigits 10 d.digits
  ((ds.reverse.dropWhile (· == '0')).reverse, d.exponent + (ds.length - 1 : Nat))

/-- Floating point text: the shortest digits that read back. From `0.00001` up to sixteen whole
digits they are written out with a point, and otherwise with one digit before the point and an
exponent that carries its sign. -/
def floatText (x : Binary64) : String :=
  let sign := if x.negative then "-" else ""
  if x.isZero then sign ++ "0.0"
  else
    let (ds, e) := leadingDigits x.shortest
    let body :=
      if -5 ≤ e ∧ e ≤ 15 then
        let places := (ds.length : Int) - 1 - e
        if places ≤ 0 then ds ++ List.replicate (-places).toNat '0' ++ ".0".toList
        else withPoint ds places.toNat
      else
        let mantissa := if ds.length = 1 then ds else withPoint ds (ds.length - 1)
        mantissa ++ (if e < 0 then "e-" else "e+").toList ++ Nat.toDigits 10 e.natAbs
    sign ++ String.ofList body

def Amount.text : Amount → String
  | .whole n => toString n
  | .float x => floatText x

end TokenConsole.Json
