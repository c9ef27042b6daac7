import TokenConsole.Number.Binary64

/-!
# The shortest decimal of a number

The fewest decimal digits that read back as the same number, and of those the nearest to it.
-/
namespace TokenConsole.Number

/-- The decimal `digits · 10 ^ exponent`. -/
structure Decimal where
  digits : Nat
  exponent : Int
  deriving DecidableEq, Repr

/-- How many decimal digits a whole number takes. -/
def digitCount (n : Nat) : Nat := (Nat.toDigits 10 n).length

/-- The power of ten of the leading digit of `num / den`. -/
def leadingPower (num den : Nat) : Int :=
  if den ≤ num then (digitCount (num / den) : Int) - 1
  else -(digitCount ((den - 1) / num) : Int)

namespace Binary64

/-- Twice the distance to the next number below, in quarters of the last place. A power of two has
its lower neighbour twice as near. -/
def gapBelow (x : Binary64) : Nat :=
  if x.mantissa = twoTo 52 ∧ minExponent < x.exponent then 1 else 2

/-- Whether the decimal `n · 10 ^ p` rounds to `x`, sign apart. -/
def readsBack (x : Binary64) (n : Nat) (p : Int) : Bool :=
  let e := x.exponent - 2
  let scaled := n * tenTo p.toNat * twoTo (-e).toNat
  let unit := twoTo e.toNat * tenTo (-p).toNat
  let low := (4 * x.mantissa - x.gapBelow) * unit
  let high := (4 * x.mantissa + 2) * unit
  if x.mantissa % 2 = 0 then low ≤ scaled && scaled ≤ high else low < scaled && scaled < high

/-- The better of the two neighbours of `x` on the grid of multiples of `10 ^ p`, if one reads
back. -/
def onGrid? (x : Binary64) (p : Int) : Option Nat :=
  let num := x.num * tenTo (-p).toNat
  let den := x.den * tenTo p.toNat
  let below := num / den
  let r := num % den
  match x.readsBack below p, x.readsBack (below + 1) p with
  | true, true =>
    some (if 2 * r < den ∨ (2 * r = den ∧ below % 2 = 0) then below else below + 1)
  | true, false => some below
  | false, true => some (below + 1)
  | false, false => none

/-- The first grid that holds a decimal that reads back, from the coarsest `p` downward. Seventeen
digits always suffice. -/
def firstGrid (x : Binary64) (p : Int) : Nat → Decimal
  | 0 => ⟨0, p⟩
  | fuel + 1 =>
    match x.onGrid? p with
    | some n => ⟨n, p⟩
    | none => firstGrid x (p - 1) fuel

/-- The shortest decimal of a number other than zero, sign apart. -/
def shortest (x : Binary64) : Decimal :=
  firstGrid x (leadingPower x.num x.den) 18

end Binary64

end TokenConsole.Number
