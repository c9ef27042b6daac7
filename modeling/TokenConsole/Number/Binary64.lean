import TokenConsole.Number.Whole

/-!
# Binary floating point

The finite numbers of the 64-bit binary format, as exact fractions. Every operation computes the
exact result and rounds it once, to the nearest number and on a tie to the even one; a result too
large for the format is refused.
-/
namespace TokenConsole.Number

/-- The number `± mantissa · 2 ^ exponent`, with `mantissa < 2 ^ 53` and
`-1074 ≤ exponent ≤ 971`. -/
structure Binary64 where
  negative : Bool
  mantissa : Nat
  exponent : Int
  deriving DecidableEq, Repr

/-- A quotient rounded to the nearest whole number, a tie to the even one. -/
def roundDiv (num den : Nat) : Nat :=
  let q := num / den
  let r := num % den
  if 2 * r < den then q
  else if den < 2 * r then q + 1
  else if q % 2 = 0 then q else q + 1

namespace Binary64

/-- The least exponent of the format. -/
def minExponent : Int := -1074

/-- The largest exponent of the format. -/
def maxExponent : Int := 971

def zero (negative : Bool) : Binary64 := ⟨negative, 0, minExponent⟩

def isZero (x : Binary64) : Bool := x.mantissa == 0

/-- The number as a fraction, sign apart. -/
def num (x : Binary64) : Nat := x.mantissa * twoTo x.exponent.toNat

def den (x : Binary64) : Nat := twoTo (-x.exponent).toNat

/-- The exponent that gives `num / den` a mantissa of 53 bits, or the least exponent. -/
def exponentOf (num den : Nat) : Int :=
  let k : Int := (Nat.log2 num : Int) - (Nat.log2 den : Int)
  let reaches := den * twoTo k.toNat ≤ num * twoTo (-k).toNat
  max minExponent (if reaches then k - 52 else k - 53)

/-- The number nearest to `num / den`; none if that is beyond the largest one. -/
def round? (negative : Bool) (num den : Nat) : Option Binary64 :=
  if num = 0 then some (zero negative)
  else
    let e := exponentOf num den
    let m := roundDiv (num * twoTo (-e).toNat) (den * twoTo e.toNat)
    let x : Binary64 := if m = twoTo 53 then ⟨negative, twoTo 52, e + 1⟩ else ⟨negative, m, e⟩
    if x.exponent ≤ maxExponent then some x else none

def mul? (x y : Binary64) : Option Binary64 :=
  round? (x.negative != y.negative) (x.num * y.num) (x.den * y.den)

/-- The quotient by a number other than zero. -/
def div? (x y : Binary64) : Option Binary64 :=
  round? (x.negative != y.negative) (x.num * y.den) (x.den * y.num)

/-- A decimal numeral `digits · 10 ^ exponent`, or none beyond the largest number. An exponent so
far out that it decides the result alone is not raised to. -/
def ofDecimal? (negative : Bool) (digits : Nat) (exponent : Int) : Option Binary64 :=
  if digits = 0 then some (zero negative)
  else
    let magnitude := exponent + (Nat.log2 digits / 4 : Nat)
    if 400 < magnitude then none
    else if exponent + (Nat.log2 digits : Int) < -400 then some (zero negative)
    else round? negative (digits * tenTo exponent.toNat) (tenTo (-exponent).toNat)

/-- The whole number next to it toward zero. -/
def truncate (x : Binary64) : Int :=
  let n : Nat := x.num / x.den
  if x.negative then -(n : Int) else n

end Binary64

end TokenConsole.Number
