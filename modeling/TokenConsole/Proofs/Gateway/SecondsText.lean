import TokenConsole.Gateway.Amounts
import TokenConsole.Proofs.Duration
import TokenConsole.Proofs.Number.Rounding

/-!
# Lifetimes written as a number of seconds

A lifetime may come as seconds and nanoseconds, or as a text such as `3600.5s`. The text is read as
a binary number of 53 bits, which keeps the seconds as long as there are few of them. It is shown
like the pair unless the nearest binary number falls into another minute.
-/
namespace TokenConsole

namespace Number

variable {whole fraction : List Char}

/-- The fraction with its point; without digits there is none. -/
def pointed (fraction : List Char) : List Char := if fraction = [] then [] else '.' :: fraction

theorem takeSign_of_digit {s : List Char} (h : ∀ c ∈ s.head?, c.isDigit = true) :
    takeSign s = (false, s) := by
  unfold takeSign
  split
  · exact absurd (h '+' rfl) (by decide)
  · exact absurd (h '-' rfl) (by decide)
  · rfl

/-- A numeral without sign and exponent is read by its digits and the number of places. -/
theorem readFinite?_pointed (hne : whole ≠ []) (hwhole : ∀ c ∈ whole, c.isDigit = true)
    (hfraction : ∀ c ∈ fraction, c.isDigit = true) :
    readFinite? (whole ++ pointed fraction) =
      Binary64.ofDecimal? false (ofDigits (whole ++ fraction)) (-fraction.length) := by
  have hsign : takeSign (whole ++ pointed fraction) = (false, whole ++ pointed fraction) := by
    obtain ⟨c, r, rfl⟩ := List.exists_cons_of_ne_nil hne
    refine takeSign_of_digit fun d hd => ?_
    cases hd
    exact hwhole c List.mem_cons_self
  have hpoint : ∀ c ∈ (pointed fraction).head?, c.isDigit = false := by
    intro c hc
    unfold pointed at hc
    split at hc
    · cases hc
    · cases hc
      decide
  have htake := takeWhile_digits hwhole hpoint
  have hdrop := dropWhile_digits hwhole hpoint
  have hplaces : fraction.takeWhile Char.isDigit = fraction ∧
      fraction.dropWhile Char.isDigit = [] := by
    have hall := takeWhile_digits hfraction (r := []) nofun
    have hnone := dropWhile_digits hfraction (r := []) nofun
    rw [List.append_nil] at hall hnone
    exact ⟨hall, hnone⟩
  unfold readFinite?
  rw [hsign]
  dsimp only
  rw [htake, hdrop]
  cases fraction with
  | nil => simp [pointed, exponent?, hne]
  | cons d ds => simp [pointed, exponent?, hne, hplaces.1, hplaces.2]

theorem ofDecimal?_of_places {digits places : Nat} (hdigits : digits ≠ 0) (hplaces : places ≤ 9)
    (hfew : digits < 2 ^ 100) :
    Binary64.ofDecimal? false digits (-places) = Binary64.round? false digits (10 ^ places) := by
  have hlog : digits.log2 < 100 := (Nat.log2_lt hdigits).2 hfew
  have hpower : (-(places : Int)).toNat = 0 ∧ (-(-(places : Int))).toNat = places := by omega
  unfold Binary64.ofDecimal?
  dsimp only
  rw [if_neg hdigits, if_neg (by omega), if_neg (by omega), hpower.1, hpower.2]
  exact congrArg (Binary64.round? false · _) (Nat.mul_one digits)

theorem truncate_zero (negative : Bool) : (Binary64.zero negative).truncate = 0 := by
  cases negative <;> simp [Binary64.zero, Binary64.truncate, Binary64.num]

theorem truncate_ofDecimal? {n f places : Nat} (hf : f < 10 ^ places) (hplaces : places ≤ 9)
    (hn : n ≤ 9223372036854775807) :
    (Binary64.ofDecimal? false (n * 10 ^ places + f) (-places)).map Binary64.truncate =
      some (Binary64.wholePart n f (10 ^ places) : Int) := by
  have hpow : 10 ^ places ≤ 10 ^ 9 := Nat.pow_le_pow_right (by decide) hplaces
  by_cases hzero : n * 10 ^ places + f = 0
  · have hn0 : n = 0 := by
      have hnone := (Nat.add_eq_zero_iff.1 hzero).1
      exact (Nat.mul_eq_zero.1 hnone).resolve_right (Nat.pow_pos (by decide)).ne'
    have hf0 : f = 0 := (Nat.add_eq_zero_iff.1 hzero).2
    subst hn0 hf0
    have hlog : Nat.log2 0 = 0 := by decide
    rw [Binary64.wholePart_of_small hf (by rw [hlog]; omega), hzero, Binary64.ofDecimal?,
      if_pos rfl, Option.map_some, truncate_zero]
    rfl
  · have hle := Nat.mul_le_mul hn hpow
    rw [ofDecimal?_of_places hzero hplaces (by omega),
      Binary64.truncate_mixed hf (by omega) (by omega) hzero]

theorem clampInt64_natCast (n : Nat) :
    clampInt64 (n : Int) = (min n 9223372036854775807 : Nat) := by
  unfold clampInt64 minInt64 maxInt64
  omega

end Number

namespace Gateway.Ttl

open TokenConsole.Number

/-- The text writes seconds in decimal, and the nanoseconds behind a point with 3, 6 or 9 digits or
not at all, and ends in `s`. -/
def Spells (s : String) (seconds nanos : Nat) : Prop :=
  ∃ whole fraction : List Char, s.toList = whole ++ pointed fraction ++ ['s'] ∧ whole ≠ [] ∧
    (∀ c ∈ whole, c.isDigit = true) ∧ (∀ c ∈ fraction, c.isDigit = true) ∧
    fraction.length ∈ [0, 3, 6, 9] ∧ ofDigits whole = seconds ∧
    ofDigits fraction * 10 ^ (9 - fraction.length) = nanos

/-- Seconds and nanoseconds as numbers. -/
def ofParts (seconds nanos : Nat) : Ttl := .duration ⟨some (.number seconds), some (.number nanos)⟩

variable {s : String} {n f : Nat}

/-- The seconds that are read from a text: those of the nearest binary number, as far as they go. -/
def secondsRead (n f : Nat) : Nat := min (Binary64.wholePart n f 1000000000) 9223372036854775807

theorem places_le : ∀ k ∈ [0, 3, 6, 9], k ≤ 9 := by decide

theorem secondsOfText?_of_spells (h : Spells s n f) (hn : n ≤ 9223372036854775807) :
    secondsOfText? s = some (secondsRead n f : Int) := by
  obtain ⟨whole, fraction, hs, hne, hwhole, hfraction, hlength, rfl, rfl⟩ := h
  have hplaces : fraction.length ≤ 9 := places_le _ hlength
  have hread : secondsOfText? s =
      (readFinite? (whole ++ pointed fraction)).map fun x => clampInt64 x.truncate := by
    simp [secondsOfText?, hs]
  have hpow : 10 ^ fraction.length ≤ 10 ^ 9 := Nat.pow_le_pow_right (by decide) hplaces
  have hpart : ofDigits fraction < 10 ^ fraction.length := ofDigits_lt hfraction
  -- the nanoseconds of the fraction are its digits with zeros behind them
  have hwiden : secondsRead (ofDigits whole) (ofDigits fraction * 10 ^ (9 - fraction.length)) =
      min (Binary64.wholePart (ofDigits whole) (ofDigits fraction) (10 ^ fraction.length))
        9223372036854775807 := by
    have hunit : (1000000000 : Nat) = 10 ^ (9 - fraction.length) * 10 ^ fraction.length := by
      rw [← Nat.pow_add, Nat.sub_add_cancel hplaces]
    rw [secondsRead, hunit, Nat.mul_comm (ofDigits fraction), Binary64.wholePart_scale
      (Nat.pow_pos (by decide)) (Nat.pow_pos (by decide))]
  rw [hread, readFinite?_pointed hne hwhole hfraction, ofDigits_append, hwiden,
    ← clampInt64_natCast, ← Option.map_some (f := clampInt64),
    ← truncate_ofDecimal? hpart hplaces hn, Option.map_map]
  rfl

theorem Spells.nanos_lt (h : Spells s n f) : f < 1000000000 := by
  obtain ⟨whole, fraction, -, -, -, hfraction, hlength, -, rfl⟩ := h
  have hplaces : fraction.length ≤ 9 := places_le _ hlength
  calc ofDigits fraction * 10 ^ (9 - fraction.length)
      < 10 ^ fraction.length * 10 ^ (9 - fraction.length) :=
        Nat.mul_lt_mul_of_pos_right (ofDigits_lt hfraction) (Nat.pow_pos (by decide))
    _ = 1000000000 := by rw [← Nat.pow_add, Nat.add_sub_cancel' hplaces]

/-! ### Seconds that are kept -/

theorem two_pow_log2_le {p : Nat} (h : n < 2 ^ (p + 1)) : 2 ^ n.log2 ≤ 2 ^ p := by
  refine Nat.pow_le_pow_right (by decide) ?_
  rcases Nat.eq_zero_or_pos n with rfl | hn
  · exact Nat.zero_le p
  · exact Nat.le_of_lt_succ ((Nat.log2_lt hn.ne').2 h)

/-- A fraction of `d` parts leaves the seconds as they are if they are few enough. -/
theorem secondsRead_of_parts {c d g : Nat} (hunit : c * d = 1000000000) (hf : c * g < 1000000000)
    (hfew : d * 2 ^ n.log2 < 2 ^ 53) (hn : n ≤ 9223372036854775807) :
    secondsRead n (c * g) = n := by
  have hc : 0 < c := Nat.pos_of_ne_zero (by rintro rfl; omega)
  have hd : 0 < d := Nat.pos_of_ne_zero (by rintro rfl; omega)
  have hg : g < d := Nat.lt_of_mul_lt_mul_left (hunit ▸ hf)
  rw [secondsRead, ← hunit, Binary64.wholePart_scale hc hd, Binary64.wholePart_of_small hg hfew]
  exact Nat.min_eq_left hn

/-- Few seconds are kept with any fraction, more of them with fewer places. -/
theorem secondsRead_of_few (hf : f < 1000000000) (hfew : n < 2 ^ 24 ∨ 1000 ∣ f ∧ n < 2 ^ 34 ∨
    1000000 ∣ f ∧ n < 2 ^ 44 ∨ f = 0 ∧ n < 2 ^ 53) : secondsRead n f = n := by
  rcases hfew with hn | ⟨⟨g, rfl⟩, hn⟩ | ⟨⟨g, rfl⟩, hn⟩ | ⟨rfl, hn⟩
  · have hlog := two_pow_log2_le hn
    have hsame : secondsRead n (1 * f) = n :=
      secondsRead_of_parts (d := 1000000000) rfl (by omega) (by omega) (by omega)
    rwa [Nat.one_mul] at hsame
  · have hlog := two_pow_log2_le hn
    exact secondsRead_of_parts (d := 1000000) rfl hf (by omega) (by omega)
  · have hlog := two_pow_log2_le hn
    exact secondsRead_of_parts (d := 1000) rfl hf (by omega) (by omega)
  · have hlog := two_pow_log2_le hn
    exact secondsRead_of_parts (c := 1000000000) (g := 0) (d := 1) rfl (by omega) (by omega)
      (by omega)

/-- Below `2 ^ 53` only the last second of a minute can be read as one of the next minute. -/
theorem secondsRead_div_iff (hn : n < 2 ^ 53) : secondsRead n f / 60 = n / 60 ↔
    ¬(n % 60 = 59 ∧ Binary64.RoundsUp n f 1000000000) := by
  have hread : secondsRead n f = if Binary64.RoundsUp n f 1000000000 then n + 1 else n := by
    unfold secondsRead Binary64.wholePart
    rw [if_pos hn]
    split <;> exact Nat.min_eq_left (by omega)
  rw [hread]
  split
  · next hup =>
    rw [and_iff_left hup]
    omega
  · next hup => exact iff_of_true rfl fun hlast => hup hlast.2

/-! ### What is shown -/

theorem human_text (h : Spells s n f) (hn : n ≤ 9223372036854775807) :
    human (.text s) = Duration.text (secondsRead n f : Nat) := by
  have hmost : secondsRead n f ≤ 9223372036854775807 := Nat.min_le_right _ _
  have htotal : Duration.totalSeconds (secondsRead n f) 0 = (secondsRead n f : Nat) := by
    unfold Duration.totalSeconds clampInt64 minInt64 maxInt64
    omega
  simp only [human, secondsOfText?_of_spells h hn]
  exact congrArg Duration.text htotal

theorem human_ofParts (hf : f < 1000000000) (hn : n ≤ 9223372036854775807) :
    human (ofParts n f) = Duration.text n := by
  have htotal : Duration.totalSeconds n f = n := by
    unfold Duration.totalSeconds clampInt64 minInt64 maxInt64
    omega
  exact congrArg Duration.text htotal

/-- A text of seconds is shown like its parts if and only if the seconds that are read from it lie
in the same minute. They do for few seconds, and with fewer places for more of them; below `2 ^ 53`
they do not just for the last second of a minute that is rounded up, as one that lacks a billionth
is from `2 ^ 24` on. -/
theorem text_shows_as_parts_iff (h : Spells s n f) (hn : n ≤ 9223372036854775807) :
    (human (.text s) = human (ofParts n f) ↔ secondsRead n f / 60 = n / 60) ∧
      (n < 2 ^ 24 ∨ 1000 ∣ f ∧ n < 2 ^ 34 ∨ 1000000 ∣ f ∧ n < 2 ^ 44 ∨ f = 0 ∧ n < 2 ^ 53 →
        human (.text s) = human (ofParts n f)) ∧
      (n < 2 ^ 53 → (human (.text s) = human (ofParts n f) ↔
        ¬(n % 60 = 59 ∧ Binary64.RoundsUp n f 1000000000))) ∧
      (2 ^ 24 ≤ n → n < 2 ^ 53 → n % 60 = 59 → f = 999999999 →
        human (.text s) ≠ human (ofParts n f)) := by
  have hf : f < 1000000000 := h.nanos_lt
  have hsame : human (.text s) = human (ofParts n f) ↔ secondsRead n f / 60 = n / 60 := by
    rw [human_text h hn, human_ofParts hf hn]
    rcases Nat.lt_or_ge n (2 ^ 24) with hfew | hmany
    · rw [secondsRead_of_few hf (.inl hfew)]
      exact iff_of_true rfl rfl
    · have hread : 3600 ≤ secondsRead n f := by
        have hleast := Binary64.le_wholePart (show 0 < 1000000000 by decide) n f
        unfold secondsRead
        omega
      exact Duration.text_eq_iff hread (by omega)
  refine ⟨hsame, fun hfew => ?_, fun hlow => hsame.trans (secondsRead_div_iff hlow), ?_⟩
  · rw [human_text h hn, human_ofParts hf hn, secondsRead_of_few hf hfew]
  · rintro hmany hlow hlast rfl heq
    exact (secondsRead_div_iff hlow).1 (hsame.1 heq) ⟨hlast, Binary64.roundsUp_of_billionth hmany⟩

theorem half_second_shows_as_parts :
    Spells "3.500s" 3 500000000 ∧ human (.text "3.500s") = human (ofParts 3 500000000) := by
  have hspells : Spells "3.500s" 3 500000000 :=
    ⟨"3".toList, "500".toList, by decide, by decide, List.all_eq_true.1 (by decide),
      List.all_eq_true.1 (by decide), by decide, by decide, by decide⟩
  exact ⟨hspells, (text_shows_as_parts_iff hspells (by omega)).2.1 (.inl (by omega))⟩

/-- A nanosecond before the full minute, the text shows the next minute. -/
theorem last_nanosecond_shows_next_minute :
    Spells "16777259.999999999s" 16777259 999999999 ∧
      human (.text "16777259.999999999s") = "4660h 21m" ∧
      human (ofParts 16777259 999999999) = "4660h 20m" := by
  have hspells : Spells "16777259.999999999s" 16777259 999999999 :=
    ⟨"16777259".toList, "999999999".toList, by decide +kernel, by decide +kernel,
      List.all_eq_true.1 (by decide +kernel), List.all_eq_true.1 (by decide +kernel),
      by decide +kernel, by decide +kernel, by decide +kernel⟩
  exact ⟨hspells, by decide +kernel, by decide +kernel⟩

end Gateway.Ttl

end TokenConsole
