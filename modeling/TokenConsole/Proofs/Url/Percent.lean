import TokenConsole.Url.Path

/-!
# Percent signs and the bytes behind them

A text that is encoded for a path decodes to its bytes, unless a percent sign in it is followed by
two digits already; such a sign is not encoded, and fewer bytes come out.
-/
namespace TokenConsole.Url

open String (utf8EncodeChar)
open TokenConsole.Number (isHexDigit ofRadix hexDigit hexDigitValue)

variable {c : Char} {s : List Char}

/-! ### Signs with two digits -/

def startsWithDigits (s : List Char) : Bool := decide (2 ≤ (s.takeWhile isHexDigit).length)

/-- A percent sign with two digits behind it stands for a byte. -/
def hasEscape : List Char → Bool
  | [] => false
  | c :: rest => (c == '%' && startsWithDigits rest) || hasEscape rest

theorem startsWithDigits_iff : startsWithDigits s = true ↔
    ∃ a b rest, s = a :: b :: rest ∧ isHexDigit a = true ∧ isHexDigit b = true := by
  rw [startsWithDigits, decide_eq_true_iff]
  constructor
  · intro h
    match s, h with
    | a :: b :: rest, h =>
      cases ha : isHexDigit a <;> cases hb : isHexDigit b <;> simp [List.takeWhile, ha, hb] at h
      exact ⟨a, b, rest, rfl, ha, hb⟩
    | [a], h =>
      cases ha : isHexDigit a <;> simp [List.takeWhile, ha] at h
  · rintro ⟨a, b, rest, rfl, ha, hb⟩
    simp [List.takeWhile, ha, hb]

theorem percentDecode_escape {a b : Char} (ha : isHexDigit a = true) (hb : isHexDigit b = true)
    (s : List Char) :
    percentDecode ('%' :: a :: b :: s) = UInt8.ofNat (ofRadix 16 [a, b]) :: percentDecode s := by
  rw [percentDecode, ha, hb]
  rfl

theorem percentDecode_cons (h : (c == '%' && startsWithDigits s) = false) :
    percentDecode (c :: s) = utf8EncodeChar c ++ percentDecode s := by
  match s, h with
  | [], _ => exact (List.append_nil _).symm
  | [d], _ => rfl
  | a :: b :: rest, h =>
    refine if_neg fun hescape => Bool.eq_false_iff.1 h ?_
    obtain ⟨⟨hc, ha⟩, hb⟩ := by simpa only [Bool.and_eq_true] using hescape
    exact Bool.and_eq_true_iff.2 ⟨hc, startsWithDigits_iff.2 ⟨a, b, rest, rfl, ha, hb⟩⟩

/-- What reads as one or more dots decodes to them. -/
theorem percentDecode_of_dots {k : Nat} (h : dots? s = some k) :
    percentDecode s = List.replicate k 0x2E := by
  fun_induction dots? s generalizing k with
  | case1 =>
    cases h
    rfl
  | case2 e rest he ih =>
    obtain ⟨n, hn, rfl⟩ := Option.map_eq_some_iff.1 h
    have hdigit : isHexDigit e = true ∧ ofRadix 16 ['2', e] = 0x2E := by
      rcases Bool.or_eq_true_iff.1 he with he | he <;> rw [eq_of_beq he] <;> decide
    rw [percentDecode_escape (by decide) hdigit.1, hdigit.2, ih hn]
    rfl
  | case3 => cases h
  | case4 c rest hnot hc ih =>
    obtain ⟨n, hn, rfl⟩ := Option.map_eq_some_iff.1 h
    rw [eq_of_beq hc, percentDecode_cons (by rfl), ih hn]
    rfl
  | case5 => cases h

/-! ### Encoded text -/

theorem hexDigit_toUpper : ∀ n < 16, isHexDigit (hexDigit n).toUpper = true ∧
    hexDigitValue (hexDigit n).toUpper = n := by
  decide

theorem percentDecode_percentByte (b : UInt8) (s : List Char) :
    percentDecode (percentByte b ++ s) = b :: percentDecode s := by
  have hb : b.toNat < 256 := b.toNat_lt
  obtain ⟨hhigh, hhigh'⟩ := hexDigit_toUpper (b.toNat / 16) (by omega)
  obtain ⟨hlow, hlow'⟩ := hexDigit_toUpper (b.toNat % 16) (by omega)
  have hvalue : ofRadix 16 [(hexDigit (b.toNat / 16)).toUpper, (hexDigit (b.toNat % 16)).toUpper] =
      b.toNat := by
    simp only [ofRadix, List.foldl_cons, List.foldl_nil, hhigh', hlow']
    omega
  change percentDecode ('%' :: _ :: _ :: s) = _
  rw [percentDecode_escape hhigh hlow, hvalue, UInt8.ofNat_toNat]

theorem percentDecode_flatMap_percentByte (bytes : List UInt8) (s : List Char) :
    percentDecode (bytes.flatMap percentByte ++ s) = bytes ++ percentDecode s := by
  induction bytes with
  | nil => rfl
  | cons b bytes ih =>
    rw [List.flatMap_cons, List.append_assoc, percentDecode_percentByte, ih, List.cons_append]

theorem slash_not_mem_percentByte (b : UInt8) : '/' ∉ percentByte b := by
  have hb : b.toNat < 256 := b.toNat_lt
  obtain ⟨hhigh, -⟩ := hexDigit_toUpper (b.toNat / 16) (by omega)
  obtain ⟨hlow, -⟩ := hexDigit_toUpper (b.toNat % 16) (by omega)
  have hslash : ¬isHexDigit '/' = true := by decide
  intro h
  simp only [percentByte, List.mem_cons, List.not_mem_nil, or_false] at h
  rcases h with h | h | h
  · exact absurd h (by decide)
  · exact hslash (h ▸ hhigh)
  · exact hslash (h ▸ hlow)

theorem percentEncode_cons (set : Char → Bool) (c : Char) (s : List Char) :
    percentEncode set (c :: s) =
      (if set c then (utf8EncodeChar c).flatMap percentByte else [c]) ++ percentEncode set s :=
  List.flatMap_cons

theorem slash_not_mem_percentEncode {set : Char → Bool} (h : '/' ∉ s) :
    '/' ∉ percentEncode set s := by
  rw [percentEncode, List.mem_flatMap]
  rintro ⟨c, hc, hmem⟩
  split at hmem
  · obtain ⟨b, -, hb⟩ := List.mem_flatMap.1 hmem
    exact slash_not_mem_percentByte b hb
  · rw [List.mem_singleton] at hmem
    exact h (hmem ▸ hc)

/-! ### Text for a path -/

theorem toNat_lt_of_isHexDigit (h : isHexDigit c = true) : c.toNat < 128 := by
  simp only [isHexDigit, Bool.or_eq_true, Bool.and_eq_true, decide_eq_true_eq,
    Char.isDigit_iff_toNat, Char.le_def, UInt32.le_iff_toNat_le, Char.toNat_val] at h
  have hends : '9'.toNat = 57 ∧ 'f'.toNat = 102 ∧ 'F'.toNat = 70 := by decide
  omega

theorem inPathSet_of_isHexDigit (h : isHexDigit c = true) : inPathSet c = false := by
  have hall : ∀ n < 128, isHexDigit (Char.ofNat n) = true → inPathSet (Char.ofNat n) = false := by
    decide
  have hc' := hall c.toNat (toNat_lt_of_isHexDigit h)
  rw [Char.ofNat_toNat] at hc'
  exact hc' h

/-- Encoding neither makes nor takes away digits at the start. -/
theorem takeWhile_percentEncode (s : List Char) :
    (percentEncode inPathSet s).takeWhile isHexDigit = s.takeWhile isHexDigit := by
  induction s with
  | nil => rfl
  | cons c s ih =>
    cases hc : isHexDigit c with
    | true =>
      rw [percentEncode_cons, inPathSet_of_isHexDigit hc]
      change (c :: percentEncode inPathSet s).takeWhile isHexDigit = _
      rw [List.takeWhile_cons_of_pos hc, List.takeWhile_cons_of_pos hc, ih]
    | false =>
      rw [percentEncode_cons, List.takeWhile_cons_of_neg (by simp [hc])]
      split
      · obtain ⟨b, bytes, hbytes⟩ :=
          List.exists_cons_of_ne_nil (String.utf8EncodeChar_ne_nil (c := c))
        rw [hbytes]
        exact List.takeWhile_cons_of_neg (by decide)
      · exact List.takeWhile_cons_of_neg (by simp [hc])

theorem startsWithDigits_percentEncode (s : List Char) :
    startsWithDigits (percentEncode inPathSet s) = startsWithDigits s := by
  rw [startsWithDigits, takeWhile_percentEncode, startsWithDigits]

theorem decode_cons (h : (c == '%' && startsWithDigits s) = false) :
    percentDecode (percentEncode inPathSet (c :: s)) =
      utf8EncodeChar c ++ percentDecode (percentEncode inPathSet s) := by
  rw [percentEncode_cons]
  split
  · rw [percentDecode_flatMap_percentByte]
  · rw [List.singleton_append, percentDecode_cons (by rwa [startsWithDigits_percentEncode])]

theorem decode_escape {a b : Char} (ha : isHexDigit a = true) (hb : isHexDigit b = true)
    (s : List Char) : percentDecode (percentEncode inPathSet ('%' :: a :: b :: s)) =
      UInt8.ofNat (ofRadix 16 [a, b]) :: percentDecode (percentEncode inPathSet s) := by
  rw [percentEncode_cons, percentEncode_cons, percentEncode_cons, inPathSet_of_isHexDigit ha,
    inPathSet_of_isHexDigit hb]
  exact percentDecode_escape ha hb _

/-- A text without escapes is decoded to its bytes. -/
theorem percentDecode_percentEncode (h : hasEscape s = false) :
    percentDecode (percentEncode inPathSet s) = s.flatMap utf8EncodeChar := by
  induction s with
  | nil => rfl
  | cons c s ih =>
    obtain ⟨hc, hs⟩ := Bool.or_eq_false_iff.1 h
    rw [decode_cons hc, ih hs, List.flatMap_cons]

theorem length_utf8EncodeChar_pos (c : Char) : 0 < (utf8EncodeChar c).length :=
  List.length_pos_iff.2 String.utf8EncodeChar_ne_nil

/-- An escape takes three characters and gives one byte. -/
theorem length_decode_escape_lt {a b : Char} (ha : isHexDigit a = true) (hb : isHexDigit b = true)
    (hs : (percentDecode (percentEncode inPathSet s)).length ≤ (s.flatMap utf8EncodeChar).length) :
    (percentDecode (percentEncode inPathSet ('%' :: a :: b :: s))).length <
      (('%' :: a :: b :: s).flatMap utf8EncodeChar).length := by
  have ha' := length_utf8EncodeChar_pos a
  have hb' := length_utf8EncodeChar_pos b
  rw [decode_escape ha hb, List.length_cons, List.flatMap_cons, List.flatMap_cons,
    List.flatMap_cons, List.length_append, List.length_append, List.length_append]
  omega

theorem length_percentDecode_le (s : List Char) :
    (percentDecode (percentEncode inPathSet s)).length ≤ (s.flatMap utf8EncodeChar).length := by
  match s with
  | [] => exact Nat.le_refl _
  | c :: s =>
    cases hc : c == '%' && startsWithDigits s with
    | false =>
      have hs := length_percentDecode_le s
      rw [decode_cons hc, List.flatMap_cons, List.length_append, List.length_append]
      omega
    | true =>
      obtain ⟨hsign, hdigits⟩ := Bool.and_eq_true_iff.1 hc
      obtain ⟨a, b, rest, rfl, ha, hb⟩ := startsWithDigits_iff.1 hdigits
      rw [eq_of_beq hsign]
      exact Nat.le_of_lt (length_decode_escape_lt ha hb (length_percentDecode_le rest))
  termination_by s.length

/-- With an escape fewer bytes come out. -/
theorem length_percentDecode_lt (h : hasEscape s = true) :
    (percentDecode (percentEncode inPathSet s)).length < (s.flatMap utf8EncodeChar).length := by
  induction s with
  | nil => cases h
  | cons c s ih =>
    cases hc : c == '%' && startsWithDigits s with
    | false =>
      have hs := ih (by simpa only [hasEscape, hc, Bool.false_or] using h)
      rw [decode_cons hc, List.flatMap_cons, List.length_append, List.length_append]
      omega
    | true =>
      obtain ⟨hsign, hdigits⟩ := Bool.and_eq_true_iff.1 hc
      obtain ⟨a, b, rest, rfl, ha, hb⟩ := startsWithDigits_iff.1 hdigits
      rw [eq_of_beq hsign]
      exact length_decode_escape_lt ha hb (length_percentDecode_le rest)

end TokenConsole.Url
