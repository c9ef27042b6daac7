import Mathlib.Data.List.TakeWhile
import TokenConsole.Json.Raw

/-!
# White space, strings and numerals of JSON

The parts of a JSON text that have no values inside. Each has a relation between what is read and
the bytes that spell it, and its reader takes exactly these bytes off the front of a text. A
numeral has no end of its own: what stands behind it must not continue it.
-/
namespace TokenConsole.Json.Raw

/-- White space, of which any amount may stand between two parts. -/
def Space (s : List UInt8) : Prop := ∀ b ∈ s, isSpaceByte b = true

/-- The bytes between the quotes of a string. A quote (34), a backslash (92) and a control character
have to be escaped. -/
inductive Spells : List Piece → List UInt8 → Prop where
  | nil : Spells [] []
  | plain {b : UInt8} {ps : List Piece} {s : List UInt8} (hcontrol : ¬b < 32) (hquote : b ≠ 34)
    (hslash : b ≠ 92) (h : Spells ps s) : Spells (.byte b :: ps) (b :: s)
  | escape {e b : UInt8} {ps : List Piece} {s : List UInt8} (hescape : escape? e = some b)
    (h : Spells ps s) : Spells (.byte b :: ps) (92 :: e :: s)
  | unit {a b c d : UInt8} {n : Nat} {ps : List Piece} {s : List UInt8}
    (hunit : hex4? a b c d = some n) (h : Spells ps s) :
    Spells (.unit n :: ps) (92 :: 117 :: a :: b :: c :: d :: s)

/-- Bytes that are the digits `ds`. -/
def Digits (ds : List Char) (s : List UInt8) : Prop :=
  (∀ b ∈ s, isDigitByte b = true) ∧ s.map (fun b => Char.ofNat b.toNat) = ds

/-- A fraction, which may be left out. -/
inductive Fraction : Option (List Char) → List UInt8 → Prop where
  | none : Fraction none []
  | some {ds : List Char} {s : List UInt8} (hds : Digits ds s) (hne : ds ≠ []) :
    Fraction (some ds) (46 :: s)

/-- The sign of an exponent, which may be left out when it is a plus. -/
inductive Sign : Bool → List UInt8 → Prop where
  | none : Sign false []
  | plus : Sign false [43]
  | minus : Sign true [45]

/-- An exponent, which may be left out. -/
inductive Exponent : Option (Bool × List Char) → List UInt8 → Prop where
  | none : Exponent none []
  | some {letter : UInt8} {negative : Bool} {ds : List Char} {sign s : List UInt8}
    (hletter : letter = 101 ∨ letter = 69) (hsign : Sign negative sign) (hds : Digits ds s)
    (hne : ds ≠ []) : Exponent (some (negative, ds)) (letter :: (sign ++ s))

/-- A numeral without its sign. A zero that leads stands alone. -/
inductive Unsigned : Numeral → List UInt8 → Prop where
  | intro {n : Numeral} {whole fraction exponent : List UInt8} (hwhole : Digits n.whole whole)
    (hne : n.whole ≠ []) (hzero : n.whole.head? = some '0' → n.whole = ['0'])
    (hfraction : Fraction n.fraction fraction) (hexponent : Exponent n.exponent exponent) :
    Unsigned n (whole ++ (fraction ++ exponent))

/-- Nothing that would continue a numeral. -/
def Apart (s : List UInt8) : Prop :=
  ∀ b ∈ s.head?, isDigitByte b = false ∧ b ≠ 46 ∧ b ≠ 101 ∧ b ≠ 69

variable {s rest : List UInt8}

/-! ### White space -/

theorem Space.nil : Space [] := nofun

theorem Space.append {t : List UInt8} (hs : Space s) (ht : Space t) : Space (s ++ t) :=
  List.forall_mem_append.2 ⟨hs, ht⟩

theorem skipSpace_append {gap : List UInt8} (h : Space gap) :
    skipSpace (gap ++ s) = skipSpace s :=
  List.dropWhile_append_of_pos h

theorem skipSpace_cons {b : UInt8} (h : isSpaceByte b = false) : skipSpace (b :: s) = b :: s := by
  rw [skipSpace, List.dropWhile_cons, h, if_neg Bool.false_ne_true]

theorem skipSpace_gap {gap : List UInt8} {b : UInt8} (hgap : Space gap)
    (hb : isSpaceByte b = false) : skipSpace (gap ++ b :: s) = b :: s := by
  rw [skipSpace_append hgap, skipSpace_cons hb]

theorem skipSpace_eq_nil_iff : skipSpace s = [] ↔ Space s := List.dropWhile_eq_nil_iff

theorem exists_gap (s : List UInt8) : ∃ gap, Space gap ∧ s = gap ++ skipSpace s :=
  ⟨s.takeWhile isSpaceByte, fun _ hb => List.mem_takeWhile_imp hb,
    List.takeWhile_append_dropWhile.symm⟩

/-! ### Strings -/

theorem spells_of_pieces {ps : List Piece} (h : pieces s = some (ps, rest)) :
    ∃ bytes, Spells ps bytes ∧ s = bytes ++ 34 :: rest := by
  fun_induction pieces s generalizing ps with
  | case1 => cases h
  | case2 r =>
    cases h
    exact ⟨[], .nil, rfl⟩
  | case3 a b c d r ih =>
    simp only [Option.bind_eq_bind, Option.bind_eq_some_iff, Option.pure_def] at h
    obtain ⟨n, hunit, ⟨qs, r'⟩, hqs, h⟩ := h
    cases h
    obtain ⟨bytes, hbytes, rfl⟩ := ih hqs
    exact ⟨_, .unit hunit hbytes, rfl⟩
  | case4 e r hlong ih =>
    simp only [Option.bind_eq_bind, Option.bind_eq_some_iff, Option.pure_def] at h
    obtain ⟨b, hescape, ⟨qs, r'⟩, hqs, h⟩ := h
    cases h
    obtain ⟨bytes, hbytes, rfl⟩ := ih hqs
    exact ⟨_, .escape hescape hbytes, rfl⟩
  | case5 b r hquote hunit hescape hbad => cases h
  | case6 b r hquote hunit hescape hgood ih =>
    simp only [Option.bind_eq_bind, Option.bind_eq_some_iff, Option.pure_def] at h
    obtain ⟨⟨qs, r'⟩, hqs, h⟩ := h
    cases h
    obtain ⟨bytes, hbytes, rfl⟩ := ih hqs
    simp only [Bool.or_eq_true, decide_eq_true_eq, beq_iff_eq, not_or] at hgood
    exact ⟨_, .plain hgood.1 hquote hgood.2 hbytes, rfl⟩

/-- A string is read up to the quote that closes it. -/
theorem pieces_of_spells {ps : List Piece} {bytes : List UInt8} (h : Spells ps bytes) :
    pieces (bytes ++ 34 :: rest) = some (ps, rest) := by
  induction h with
  | nil => rfl
  | @plain b ps s hcontrol hquote hslash h ih =>
    have hgood : ¬((decide (b < 32) || b == 92) = true) := by
      simp [hcontrol, hslash]
    rw [List.cons_append, pieces, if_neg hgood, ih]
    · rfl
    · exact hquote
    · exact fun _ _ _ _ _ he _ => hslash he
    · exact fun _ _ he _ => hslash he
  | @escape e b ps s hescape h ih =>
    have he : e ≠ 117 := by
      rintro rfl
      cases hescape
    rw [List.cons_append, List.cons_append, pieces, ih, hescape]
    · rfl
    · exact fun _ _ _ _ _ hunit _ => he hunit
  | unit hunit h ih =>
    simp only [List.cons_append, pieces, hunit, ih]
    rfl

/-! ### Numerals -/

theorem apart_cons {b : UInt8} (h : isDigitByte b = false ∧ b ≠ 46 ∧ b ≠ 101 ∧ b ≠ 69) :
    Apart (b :: s) := by
  rintro c ⟨⟩
  exact h

/-- White space ends a numeral as well as anything that may stand behind it. -/
theorem Space.apart {gap : List UInt8} (hgap : Space gap) (h : Apart s) : Apart (gap ++ s) := by
  cases gap with
  | nil => exact h
  | cons b gap =>
    have hb := hgap b (List.mem_cons_self ..)
    simp only [isSpaceByte, Bool.or_eq_true, beq_iff_eq] at hb
    rcases hb with ((rfl | rfl) | rfl) | rfl
    all_goals exact apart_cons (by decide)

theorem takeDigits_eq_iff {ds : List Char} : takeDigits s = (ds, rest) ↔
    (∃ bytes, Digits ds bytes ∧ s = bytes ++ rest) ∧ ∀ b ∈ rest.head?, isDigitByte b = false := by
  constructor
  · rintro ⟨⟩
    refine ⟨⟨s.takeWhile isDigitByte, ⟨fun _ hb => List.mem_takeWhile_imp hb, rfl⟩,
      List.takeWhile_append_dropWhile.symm⟩, fun b hb => ?_⟩
    have hhead := List.head?_dropWhile_not isDigitByte s
    rw [Option.mem_def.1 hb] at hhead
    exact hhead
  · rintro ⟨⟨bytes, ⟨hdigits, rfl⟩, rfl⟩, hrest⟩
    have hnone : rest.takeWhile isDigitByte = [] ∧ rest.dropWhile isDigitByte = rest := by
      cases rest with
      | nil => exact ⟨rfl, rfl⟩
      | cons b rest =>
        have hb := hrest b rfl
        simp [hb]
    rw [takeDigits, List.takeWhile_append_of_pos hdigits, List.dropWhile_append_of_pos hdigits,
      hnone.1, hnone.2, List.append_nil]

theorem fraction_of_read {fraction : Option (List Char)}
    (h : fraction? s = some (fraction, rest)) :
    ∃ bytes, Fraction fraction bytes ∧ s = bytes ++ rest := by
  unfold fraction? at h
  split at h
  · next r =>
    generalize htake : takeDigits r = taken at h
    obtain ⟨ds, r'⟩ := taken
    obtain ⟨⟨bytes, hds, rfl⟩, -⟩ := takeDigits_eq_iff.1 htake
    simp only at h
    split at h
    · cases h
    · next hne =>
      cases h
      exact ⟨_, .some hds hne, rfl⟩
  · cases h
    exact ⟨_, .none, rfl⟩

theorem fraction?_append {fraction : Option (List Char)} {bytes : List UInt8}
    (h : Fraction fraction bytes) (hrest : ∀ b ∈ rest.head?, isDigitByte b = false ∧ b ≠ 46) :
    fraction? (bytes ++ rest) = some (fraction, rest) := by
  cases h with
  | none =>
    rw [List.nil_append, fraction?]
    rintro r rfl
    exact (hrest 46 rfl).2 rfl
  | @some ds s hds hne =>
    have htake : takeDigits (s ++ rest) = (ds, rest) :=
      takeDigits_eq_iff.2 ⟨⟨s, hds, rfl⟩, fun b hb => (hrest b hb).1⟩
    simp only [List.cons_append, fraction?, htake, if_neg hne]

/-- The digits of an exponent, behind its sign. -/
theorem exponent_of_digits {negative : Bool} {r : List UInt8} {letter : UInt8} {sign : List UInt8}
    {x : Option (Bool × List Char)} (hletter : letter = 101 ∨ letter = 69)
    (hsign : Sign negative sign) (h : (if (takeDigits r).1 = [] then none
      else some (some (negative, (takeDigits r).1), (takeDigits r).2)) = some (x, rest)) :
    ∃ bytes, Exponent x bytes ∧ letter :: (sign ++ r) = bytes ++ rest := by
  generalize htake : takeDigits r = taken at h
  obtain ⟨ds, r'⟩ := taken
  obtain ⟨⟨bytes, hds, rfl⟩, -⟩ := takeDigits_eq_iff.1 htake
  split at h
  · cases h
  · next hne =>
    cases h
    exact ⟨_, .some hletter hsign hds hne, by simp⟩

theorem exponent_of_read {x : Option (Bool × List Char)} (h : exponent? s = some (x, rest)) :
    ∃ bytes, Exponent x bytes ∧ s = bytes ++ rest := by
  unfold exponent? at h
  split at h
  · next letter r =>
    split at h
    · next hletter =>
      simp only [Bool.or_eq_true, beq_iff_eq] at hletter
      split at h
      next negative after hsign =>
      split at hsign
      · next r =>
        cases hsign
        exact exponent_of_digits hletter .plus h
      · next r =>
        cases hsign
        exact exponent_of_digits hletter .minus h
      · cases hsign
        exact exponent_of_digits hletter .none h
    · cases h
      exact ⟨_, .none, rfl⟩
  · cases h
    exact ⟨_, .none, rfl⟩

theorem exponent?_append {x : Option (Bool × List Char)} {bytes : List UInt8}
    (h : Exponent x bytes) (hrest : Apart rest) :
    exponent? (bytes ++ rest) = some (x, rest) := by
  cases h with
  | none =>
    cases rest with
    | nil => rfl
    | cons b rest =>
      obtain ⟨-, -, he, hE⟩ := hrest b rfl
      simp [exponent?, he, hE]
  | @some letter negative ds sign s hletter hsign hds hne =>
    have htake : takeDigits (s ++ rest) = (ds, rest) :=
      takeDigits_eq_iff.2 ⟨⟨s, hds, rfl⟩, fun b hb => (hrest b hb).1⟩
    have hletter' : (letter == 101 || letter == 69) = true := by simpa using hletter
    simp only [List.cons_append, List.append_assoc, exponent?, hletter', if_true]
    cases hsign with
    | plus => simp only [List.cons_append, List.nil_append, htake, if_neg hne]
    | minus => simp only [List.cons_append, List.nil_append, htake, if_neg hne]
    | none =>
      -- the first digit is taken for no sign
      obtain ⟨hdigits, rfl⟩ := hds
      cases s with
      | nil => exact absurd rfl hne
      | cons b s =>
        have hb : isDigitByte b = true := hdigits b (List.mem_cons_self ..)
        rw [List.cons_append] at htake
        rw [List.nil_append, List.cons_append]
        split
        · next heq =>
          cases heq
          cases hb
        · next heq =>
          cases heq
          cases hb
        · simp only [htake, if_neg hne]

/-- Neither a digit nor a point begins what stands behind a fraction. -/
theorem Exponent.head {x : Option (Bool × List Char)} {bytes : List UInt8} (h : Exponent x bytes)
    (hrest : Apart rest) : ∀ b ∈ (bytes ++ rest).head?, isDigitByte b = false ∧ b ≠ 46 := by
  cases h with
  | none => exact fun b hb => ⟨(hrest b hb).1, (hrest b hb).2.1⟩
  | some hletter hsign hds hne =>
    rintro b ⟨⟩
    rcases hletter with rfl | rfl
    · decide
    · decide

theorem Fraction.head {fraction : Option (List Char)} {bytes : List UInt8}
    (h : Fraction fraction bytes) (hrest : ∀ b ∈ rest.head?, isDigitByte b = false) :
    ∀ b ∈ (bytes ++ rest).head?, isDigitByte b = false := by
  cases h with
  | none => exact hrest
  | some hds hne =>
    rintro b ⟨⟩
    decide

theorem unsigned_of_numeral {negative : Bool} {n : Numeral}
    (h : numeral? negative s = some (n, rest)) :
    n.negative = negative ∧ ∃ bytes, Unsigned n bytes ∧ s = bytes ++ rest := by
  unfold numeral? at h
  generalize htake : takeDigits s = taken at h
  obtain ⟨ds, r⟩ := taken
  obtain ⟨⟨whole, hwhole, rfl⟩, -⟩ := takeDigits_eq_iff.1 htake
  simp only at h
  split at h
  · cases h
  · next hleading =>
    simp only [Option.bind_eq_bind, Option.bind_eq_some_iff, Option.pure_def] at h
    obtain ⟨⟨fraction, r₁⟩, hfraction, ⟨x, r₂⟩, hexponent, h⟩ := h
    cases h
    obtain ⟨fs, hfs, rfl⟩ := fraction_of_read hfraction
    obtain ⟨es, hes, rfl⟩ := exponent_of_read hexponent
    have hzero : ds.head? = some '0' → ds = ['0'] := fun hhead =>
      Classical.byContradiction fun hne => hleading (.inr ⟨hhead, hne⟩)
    exact ⟨rfl, _, .intro hwhole (fun he => hleading (.inl he)) hzero hfs hes, by simp⟩

/-- A numeral is read up to what does not continue it. -/
theorem numeral?_append {n : Numeral} {bytes : List UInt8} (h : Unsigned n bytes)
    (hrest : Apart rest) : numeral? n.negative (bytes ++ rest) = some (n, rest) := by
  obtain ⟨hwhole, hne, hzero, hfraction, hexponent⟩ := h
  next whole fraction exponent =>
  have hpoint := hexponent.head hrest
  have htake : takeDigits (whole ++ (fraction ++ (exponent ++ rest))) =
      (n.whole, fraction ++ (exponent ++ rest)) :=
    takeDigits_eq_iff.2 ⟨⟨whole, hwhole, rfl⟩, hfraction.head fun b hb => (hpoint b hb).1⟩
  have hleading : ¬(n.whole = [] ∨ n.whole.head? = some '0' ∧ n.whole ≠ ['0']) := by
    rintro (he | ⟨hhead, hother⟩)
    · exact hne he
    · exact hother (hzero hhead)
  rw [List.append_assoc, List.append_assoc, numeral?, htake]
  simp only [if_neg hleading, fraction?_append hfraction hpoint, exponent?_append hexponent hrest,
    Option.bind_eq_bind, Option.bind_some, Option.pure_def]

/-- Every numeral begins with a digit. -/
theorem Unsigned.head {n : Numeral} {bytes : List UInt8} (h : Unsigned n bytes) :
    ∃ b t, bytes = b :: t ∧ isDigitByte b = true := by
  obtain ⟨⟨hdigits, hwhole⟩, hne, -, -, -⟩ := h
  next whole fraction exponent =>
  cases whole with
  | nil => exact absurd hwhole.symm hne
  | cons b t => exact ⟨b, _, rfl, hdigits b (List.mem_cons_self ..)⟩

end TokenConsole.Json.Raw
