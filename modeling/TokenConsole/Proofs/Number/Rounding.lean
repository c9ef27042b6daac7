import Mathlib.Order.Basic
import Mathlib.Tactic.Ring
import TokenConsole.Number.Binary64

/-!
# Rounding of fractions

What becomes of a fraction that is read as a binary number of 53 bits, and is then cut to a whole
number. Below `2 ^ 53` the numbers are so close that the whole part stays as it is, unless the
fraction is rounded up to the next whole number; beyond, the numbers are whole and get further
apart.
-/
namespace TokenConsole.Number

/-! ### Quotients -/

/-- A quotient is rounded to `q` or more from half a unit below on, which is a tie and goes to the
even one. -/
theorem le_roundDiv_iff {num den q : Nat} (hden : 0 < den) : q ≤ roundDiv num den ↔
    2 * (q * den) < 2 * num + den ∨ 2 * (q * den) = 2 * num + den ∧ q % 2 = 0 := by
  have hnum : num = num / den * den + num % den := by
    rw [Nat.mul_comm]
    exact (Nat.div_add_mod num den).symm
  have hrest : num % den < den := Nat.mod_lt num hden
  unfold roundDiv
  generalize num / den = a at *
  generalize num % den = r at *
  rcases Nat.lt_trichotomy q (a + 1) with hq | rfl | hq
  · have hle : q * den ≤ a * den := Nat.mul_le_mul_right den (by omega)
    have hround : q ≤ a := by omega
    refine iff_of_true ?_ (.inl (by omega))
    dsimp only
    repeat' split
    all_goals omega
  · have hsucc : (a + 1) * den = a * den + den := Nat.succ_mul a den
    dsimp only
    rw [hsucc]
    repeat' split
    all_goals omega
  · have hge : (a + 2) * den ≤ q * den := Nat.mul_le_mul_right den (by omega)
    have htwo : (a + 2) * den = a * den + 2 * den := Nat.add_mul a 2 den
    refine iff_of_false ?_ (by omega)
    dsimp only
    repeat' split
    all_goals omega

theorem roundDiv_scale {num den c : Nat} (hden : 0 < den) (hc : 0 < c) :
    roundDiv (c * num) (c * den) = roundDiv num den := by
  refine eq_of_forall_le_iff fun q => ?_
  have hleft : 2 * (q * (c * den)) = c * (2 * (q * den)) := by ring
  have hright : 2 * (c * num) + c * den = c * (2 * num + den) := by ring
  rw [le_roundDiv_iff (Nat.mul_pos hc hden), le_roundDiv_iff hden, hleft, hright,
    Nat.mul_lt_mul_left hc, Nat.mul_right_inj hc.ne']

/-- When numbers are a `t`-th apart, `n` and `f / d` is rounded up to the next whole number or
stays below it. -/
theorem roundDiv_div {n f d t : Nat} (hf : f < d) (ht : 0 < t) :
    roundDiv ((n * d + f) * t) d / t =
      if 2 * ((d - f) * t) < d ∨ 2 * ((d - f) * t) = d ∧ (n + 1) * t % 2 = 0 then n + 1 else n := by
  have hd : 0 < d := by omega
  obtain ⟨g, rfl⟩ : ∃ g, d = f + g := ⟨d - f, by omega⟩
  have hg : 0 < g := by omega
  have hgt : g ≤ g * t := Nat.le_mul_of_pos_right g ht
  have hdt : f + g ≤ (f + g) * t := Nat.le_mul_of_pos_right _ ht
  have hpart : f + g - f = g := by omega
  rw [hpart]
  -- everything in terms of the next whole number, from which `g` parts are missing
  have hnum : (n * (f + g) + f) * t + g * t = (n + 1) * t * (f + g) := by ring
  have hdown : (n + 1) * t * (f + g) = n * t * (f + g) + (f + g) * t := by ring
  have hup : (n + 2) * t * (f + g) = (n + 1) * t * (f + g) + (f + g) * t := by ring
  have hlow : n * t ≤ roundDiv ((n * (f + g) + f) * t) (f + g) := by
    refine (le_roundDiv_iff hd).2 (.inl ?_)
    have hft : (f + g) * t = f * t + g * t := Nat.add_mul f g t
    omega
  have hhigh : ¬(n + 2) * t ≤ roundDiv ((n * (f + g) + f) * t) (f + g) := by
    rw [le_roundDiv_iff hd]
    omega
  have hcarry : (n + 1) * t ≤ roundDiv ((n * (f + g) + f) * t) (f + g) ↔
      2 * (g * t) < f + g ∨ 2 * (g * t) = f + g ∧ (n + 1) * t % 2 = 0 := by
    rw [le_roundDiv_iff hd]
    omega
  split
  · next h =>
    exact Nat.div_eq_of_lt_le (hcarry.2 h) (Nat.lt_of_not_le hhigh)
  · next h =>
    exact Nat.div_eq_of_lt_le hlow (Nat.lt_of_not_le (mt hcarry.1 h))

/-! ### Exponents -/

namespace Binary64

variable {num den : Nat}

theorem exponentOf_of_reaches {k : Int} (hk : k = (num.log2 : Int) - den.log2)
    (h : den * 2 ^ k.toNat ≤ num * 2 ^ (-k).toNat) :
    exponentOf num den = max minExponent (k - 52) := by
  subst hk
  exact congrArg (max minExponent) (if_pos h)

theorem exponentOf_of_not_reaches {k : Int} (hk : k = (num.log2 : Int) - den.log2)
    (h : num * 2 ^ (-k).toNat < den * 2 ^ k.toNat) :
    exponentOf num den = max minExponent (k - 53) := by
  subst hk
  exact congrArg (max minExponent) (if_neg (Nat.not_le.2 h))

/-- A fraction between two powers of two has the exponent of the lower one, for 53 bits. -/
theorem exponentOf_eq {p : Nat} (hden : 0 < den) (hlow : den * 2 ^ p ≤ num)
    (hhigh : num < den * 2 ^ (p + 1)) : exponentOf num den = p - 52 := by
  have hnum : num ≠ 0 := by
    have hpos : 0 < den * 2 ^ p := Nat.mul_pos hden (Nat.two_pow_pos p)
    omega
  have hlower : den.log2 + p < num.log2 + 1 := by
    refine (Nat.pow_lt_pow_iff_right (by decide : 1 < 2)).1 ?_
    calc 2 ^ (den.log2 + p) = 2 ^ den.log2 * 2 ^ p := Nat.pow_add 2 _ p
      _ ≤ den * 2 ^ p := Nat.mul_le_mul_right _ (Nat.log2_self_le hden.ne')
      _ ≤ num := hlow
      _ < 2 ^ (num.log2 + 1) := Nat.lt_log2_self
  have hupper : num.log2 < den.log2 + 1 + (p + 1) := by
    refine (Nat.pow_lt_pow_iff_right (by decide : 1 < 2)).1 ?_
    calc 2 ^ num.log2 ≤ num := Nat.log2_self_le hnum
      _ < den * 2 ^ (p + 1) := hhigh
      _ ≤ 2 ^ (den.log2 + 1) * 2 ^ (p + 1) := Nat.mul_le_mul_right _ Nat.lt_log2_self.le
      _ = 2 ^ (den.log2 + 1 + (p + 1)) := (Nat.pow_add 2 _ _).symm
  have hwhole : ∀ q : Nat, (-(q : Int)).toNat = 0 := fun q => by omega
  obtain hk | hk : num.log2 = den.log2 + p ∨ num.log2 = den.log2 + (p + 1) := by omega
  · rw [exponentOf_of_reaches (k := p) (by omega), minExponent]
    · omega
    · rwa [Int.toNat_natCast, hwhole, Nat.pow_zero, Nat.mul_one]
  · rw [exponentOf_of_not_reaches (k := (p + 1 : Nat)) (by omega), minExponent]
    · omega
    · rwa [Int.toNat_natCast, hwhole, Nat.pow_zero, Nat.mul_one]

theorem exponentOf_le (num den : Nat) :
    exponentOf num den ≤ max minExponent ((num.log2 : Int) - den.log2 - 52) := by
  unfold exponentOf
  dsimp only
  split
  · exact Int.le_refl _
  · omega

/-- A fraction below one has an exponent that is too small for any of the bits to count one. -/
theorem exponentOf_of_lt (h : num < den) : exponentOf num den ≤ -53 := by
  have hden : den ≠ 0 := by omega
  have hlog : num.log2 ≤ den.log2 := by
    rcases Nat.eq_zero_or_pos num with rfl | hnum
    · exact Nat.zero_le _
    · exact (Nat.le_log2 hden).2 ((Nat.log2_self_le hnum.ne').trans h.le)
  rcases Nat.lt_or_eq_of_le hlog with hlt | heq
  · have hle := exponentOf_le num den
    rw [minExponent] at hle
    omega
  · rw [exponentOf_of_not_reaches (k := 0) (by omega) (by simpa using h), minExponent]
    omega

/-! ### Whole parts -/

/-- The whole part of `m` units of `2 ^ e`, also when they take one bit too many. -/
theorem truncate_units (m : Nat) (e : Int) :
    truncate (if m = twoTo 53 then ⟨false, twoTo 52, e + 1⟩ else ⟨false, m, e⟩) =
      (m * 2 ^ e.toNat / 2 ^ (-e).toNat : Nat) := by
  split
  · next hm =>
    subst hm
    change ((2 ^ 52 * 2 ^ (e + 1).toNat / 2 ^ (-(e + 1)).toNat : Nat) : Int) =
      ((2 ^ 52 * 2) * 2 ^ e.toNat / 2 ^ (-e).toNat : Nat)
    generalize 2 ^ 52 = b
    rcases Int.lt_or_le e 0 with he | he
    · have hfew : (-e).toNat = (-(e + 1)).toNat + 1 := by omega
      have hnone : (e + 1).toNat = 0 ∧ e.toNat = 0 := by omega
      rw [hfew, hnone.1, hnone.2, Nat.pow_zero, Nat.mul_one, Nat.mul_one, Nat.pow_succ,
        Nat.mul_div_mul_right _ _ (by decide : 0 < 2)]
    · have hmore : (e + 1).toNat = e.toNat + 1 := by omega
      have hnone : (-(e + 1)).toNat = 0 ∧ (-e).toNat = 0 := by omega
      rw [hmore, hnone.1, hnone.2, Nat.pow_succ, Nat.mul_right_comm, Nat.mul_assoc]
  · rfl

/-- A fraction in range is rounded to a number of units. -/
theorem truncate_round? {e : Int} (hnum : num ≠ 0) (he : exponentOf num den = e) (hmax : e < 971) :
    (round? false num den).map truncate =
      some ((roundDiv (num * 2 ^ (-e).toNat) (den * 2 ^ e.toNat) * 2 ^ e.toNat /
        2 ^ (-e).toNat : Nat) : Int) := by
  subst he
  rw [← truncate_units, round?, if_neg hnum]
  dsimp only
  rw [if_pos, Option.map_some]
  · rfl
  · split <;> rw [maxExponent] <;> dsimp only <;> omega

/-! ### Seconds and a fraction -/

/-- The number nearest to `n` and `f / d`, for `n` below `2 ^ 53`, is the next whole number: the
part that is missing is less than half of the distance between numbers, or just half of it and the
next number is even. -/
def RoundsUp (n f d : Nat) : Prop :=
  2 * ((d - f) * 2 ^ (52 - n.log2)) < d ∨
    2 * ((d - f) * 2 ^ (52 - n.log2)) = d ∧ (n + 1) * 2 ^ (52 - n.log2) % 2 = 0

instance (n f d : Nat) : Decidable (RoundsUp n f d) := inferInstanceAs (Decidable (_ ∨ _))

/-- The whole part of the number nearest to `n` and `f / d`. -/
def wholePart (n f d : Nat) : Nat :=
  if n < 2 ^ 53 then if RoundsUp n f d then n + 1 else n
  else roundDiv (n * d + f) (d * 2 ^ (n.log2 - 52)) * 2 ^ (n.log2 - 52)

variable {n f d : Nat}

theorem exponentOf_mixed (hf : f < d) (hn : n ≠ 0) :
    exponentOf (n * d + f) d = (n.log2 : Int) - 52 := by
  have hd : 0 < d := by omega
  refine exponentOf_eq hd ?_ ?_
  · calc d * 2 ^ n.log2 ≤ d * n := Nat.mul_le_mul_left d (Nat.log2_self_le hn)
      _ = n * d := Nat.mul_comm d n
      _ ≤ n * d + f := Nat.le_add_right _ f
  · calc n * d + f < n * d + d := by omega
      _ = d * (n + 1) := by ring
      _ ≤ d * 2 ^ (n.log2 + 1) := Nat.mul_le_mul_left d Nat.lt_log2_self

/-- Nothing is rounded up to one if the parts are few. -/
theorem not_rounds_to_one {t : Nat} (hf : f < d) (ht : d < 2 * t) :
    ¬(2 * ((d - f) * t) < d ∨ 2 * ((d - f) * t) = d ∧ (0 + 1) * t % 2 = 0) := by
  have hle : t ≤ (d - f) * t := Nat.le_mul_of_pos_left t (by omega)
  omega

theorem truncate_round?_of_nonpos {g : Nat} (hf : f < d) (hnum : n * d + f ≠ 0)
    (he : exponentOf (n * d + f) d = -(g : Int)) :
    (round? false (n * d + f) d).map truncate =
      some ((if 2 * ((d - f) * 2 ^ g) < d ∨ 2 * ((d - f) * 2 ^ g) = d ∧ (n + 1) * 2 ^ g % 2 = 0
        then n + 1 else n : Nat) : Int) := by
  have hunits : (-(-(g : Int))).toNat = g ∧ (-(g : Int)).toNat = 0 := by omega
  rw [truncate_round? hnum he (by omega), hunits.1, hunits.2, Nat.pow_zero, Nat.mul_one,
    Nat.mul_one, roundDiv_div hf (Nat.two_pow_pos g)]

/-- What is left of a mixed number when it is read as a binary number and its fraction is cut. -/
theorem truncate_mixed (hf : f < d) (hd : d < 2 ^ 52) (hn : n < 2 ^ 64) (hnum : n * d + f ≠ 0) :
    (round? false (n * d + f) d).map truncate = some (wholePart n f d : Int) := by
  rcases Nat.eq_zero_or_pos n with rfl | hpos
  · -- a fraction alone: the unit is so small that one is out of reach
    obtain ⟨g, hg, hg'⟩ : ∃ g : Nat, exponentOf (0 * d + f) d = -(g : Int) ∧ 53 ≤ g := by
      have hle := exponentOf_of_lt (show 0 * d + f < d by omega)
      exact ⟨(-exponentOf (0 * d + f) d).toNat, by omega, by omega⟩
    have hsmall : 2 ^ 52 ≤ 2 ^ g := Nat.pow_le_pow_right (by decide) (by omega)
    have hlog : Nat.log2 0 = 0 := by decide
    have hup : ¬RoundsUp 0 f d := not_rounds_to_one hf (by rw [hlog]; omega)
    rw [truncate_round?_of_nonpos hf hnum hg, if_neg (not_rounds_to_one hf (by omega)), wholePart,
      if_pos (by decide), if_neg hup]
  · have he := exponentOf_mixed hf hpos.ne'
    by_cases hsmall : n < 2 ^ 53
    · have hlog : n.log2 < 53 := (Nat.log2_lt hpos.ne').2 hsmall
      have hg : exponentOf (n * d + f) d = -((52 - n.log2 : Nat) : Int) := by omega
      rw [truncate_round?_of_nonpos hf hnum hg, wholePart, if_pos hsmall]
      rfl
    · have hlog : 53 ≤ n.log2 := (Nat.le_log2 hpos.ne').2 (Nat.le_of_not_lt hsmall)
      have hmax : n.log2 < 64 := (Nat.log2_lt hpos.ne').2 hn
      have hg : exponentOf (n * d + f) d = ((n.log2 - 52 : Nat) : Int) := by omega
      have hunits : (-((n.log2 - 52 : Nat) : Int)).toNat = 0 := by omega
      rw [truncate_round? hnum hg (by omega), hunits, Int.toNat_natCast, Nat.pow_zero, Nat.mul_one,
        Nat.div_one, wholePart, if_neg hsmall]

/-- A fraction may be written with more places. -/
theorem wholePart_scale {c : Nat} (hc : 0 < c) (hd : 0 < d) :
    wholePart n (c * f) (c * d) = wholePart n f d := by
  have hup : RoundsUp n (c * f) (c * d) ↔ RoundsUp n f d := by
    unfold RoundsUp
    have hpart : 2 * ((c * d - c * f) * 2 ^ (52 - n.log2)) =
        c * (2 * ((d - f) * 2 ^ (52 - n.log2))) := by
      rw [← Nat.mul_sub]
      ring
    rw [hpart, Nat.mul_lt_mul_left hc, Nat.mul_right_inj hc.ne']
  have hnum : n * (c * d) + c * f = c * (n * d + f) := by ring
  unfold wholePart
  simp only [hup]
  rw [hnum, Nat.mul_assoc c d, roundDiv_scale (Nat.mul_pos hd (Nat.two_pow_pos _)) hc]

/-- The whole part of a number is kept as long as the number is small; the fewer places the
fraction has, the larger it may be. -/
theorem wholePart_of_small (hf : f < d) (h : d * 2 ^ n.log2 < 2 ^ 53) : wholePart n f d = n := by
  have hlog : n.log2 < 53 := by
    refine (Nat.pow_lt_pow_iff_right (by decide : 1 < 2)).1 ?_
    exact (Nat.le_mul_of_pos_left _ (by omega)).trans_lt h
  have hn : n < 2 ^ 53 := Nat.lt_log2_self.trans_le (Nat.pow_le_pow_right (by decide) hlog)
  have hunit : 2 ^ (52 - n.log2) ≤ (d - f) * 2 ^ (52 - n.log2) :=
    Nat.le_mul_of_pos_left _ (by omega)
  have hfew : d < 2 * 2 ^ (52 - n.log2) := by
    refine Nat.lt_of_mul_lt_mul_right (a := 2 ^ n.log2) ?_
    rwa [Nat.mul_assoc, ← Nat.pow_add, ← Nat.pow_succ',
      show (52 - n.log2 + n.log2).succ = 53 by omega]
  rw [wholePart, if_pos hn, if_neg]
  unfold RoundsUp
  omega

/-- A second that lacks a billionth is a whole one from `2 ^ 24` on. -/
theorem roundsUp_of_billionth (hlow : 2 ^ 24 ≤ n) : RoundsUp n 999999999 1000000000 := by
  have hlog : 24 ≤ n.log2 := (Nat.le_log2 (by omega)).2 hlow
  have hunit : 2 ^ (52 - n.log2) ≤ 2 ^ 28 := Nat.pow_le_pow_right (by decide) (by omega)
  exact .inl (by omega)

/-- No number is rounded below the least power of two in it. -/
theorem le_wholePart (hd : 0 < d) (n f : Nat) : min n (2 ^ 53) ≤ wholePart n f d := by
  unfold wholePart
  split
  · split <;> omega
  · next hn =>
    have hn0 : n ≠ 0 := by omega
    have hlog : 53 ≤ n.log2 := (Nat.le_log2 hn0).2 (Nat.le_of_not_lt hn)
    have hunit : 2 ^ 1 ≤ 2 ^ (n.log2 - 52) := Nat.pow_le_pow_right (by decide) (by omega)
    have hround : 2 ^ 52 ≤ roundDiv (n * d + f) (d * 2 ^ (n.log2 - 52)) := by
      have hden : 0 < d * 2 ^ (n.log2 - 52) := Nat.mul_pos hd (Nat.two_pow_pos _)
      refine (le_roundDiv_iff hden).2 (.inl ?_)
      have hpow : 2 ^ 52 * (d * 2 ^ (n.log2 - 52)) ≤ n * d := by
        calc 2 ^ 52 * (d * 2 ^ (n.log2 - 52)) = 2 ^ (52 + (n.log2 - 52)) * d := by
              rw [Nat.pow_add]
              ring
          _ = 2 ^ n.log2 * d := by rw [Nat.add_sub_cancel' (by omega)]
          _ ≤ n * d := Nat.mul_le_mul_right d (Nat.log2_self_le hn0)
      omega
    calc min n (2 ^ 53) ≤ 2 ^ 53 := Nat.min_le_right n _
      _ = 2 ^ 52 * 2 ^ 1 := by decide
      _ ≤ _ := Nat.mul_le_mul hround hunit

end Binary64

end TokenConsole.Number
