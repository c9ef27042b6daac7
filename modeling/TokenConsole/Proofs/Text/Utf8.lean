import TokenConsole.Proofs.Except
import TokenConsole.Text.Utf8

/-!
# Bytes and the text that they spell

Reading accepts exactly what writing produces: a sequence of bytes is read as a text if and only if
the text is written with these very bytes. So overlong forms, surrogates and cut characters are no
text, and no two texts are written alike.
-/
namespace TokenConsole.Text.Utf8

open String (utf8EncodeChar)

/-! ### The bytes of one character -/

theorem isTail_iff {b : UInt8} : isTail b = true ↔ 128 ≤ b.toNat ∧ b.toNat ≤ 191 := by
  rw [isTail, Bool.and_eq_true, decide_eq_true_iff, decide_eq_true_iff, UInt8.le_iff_toNat_le,
    UInt8.le_iff_toNat_le]
  exact Iff.rfl

/-- Four lead bytes narrow down what may follow: shorter forms, surrogates and numbers beyond the
last character are left out. -/
theorem isSecond_iff {a b : UInt8} : isSecond a b = true ↔
    128 ≤ b.toNat ∧ b.toNat ≤ 191 ∧ (a.toNat = 224 → 160 ≤ b.toNat) ∧
      (a.toNat = 237 → b.toNat ≤ 159) ∧ (a.toNat = 240 → 144 ≤ b.toNat) ∧
      (a.toNat = 244 → b.toNat ≤ 143) := by
  simp only [isSecond, isTail, beq_iff_eq, ← UInt8.toNat_inj, UInt8.reduceToNat]
  repeat' split
  all_goals
    rw [Bool.and_eq_true, decide_eq_true_iff, decide_eq_true_iff, UInt8.le_iff_toNat_le,
      UInt8.le_iff_toNat_le]
    simp only [UInt8.reduceToNat]
    omega

/-- The number of a character is no surrogate and not beyond the last one. -/
theorem toNat_valid (c : Char) : c.toNat < 55296 ∨ 57343 < c.toNat ∧ c.toNat < 1114112 := c.valid

theorem toNat_ofNat {n : Nat} (h : n < 55296 ∨ 57343 < n ∧ n < 1114112) :
    (Char.ofNat n).toNat = n := by
  have hvalid : n.isValidChar := h
  rw [Char.ofNat, dif_pos hvalid]
  rfl

/-- A byte is known by its number. -/
theorem byte_eq_iff {a : UInt8} {n : Nat} (h : n < 256) : UInt8.ofNat n = a ↔ n = a.toNat := by
  rw [← UInt8.toNat_inj, UInt8.toNat_ofNat_of_lt' h]

theorem encodeChar_eq_one_iff {c : Char} {a : UInt8} :
    utf8EncodeChar c = [a] ↔ a.toNat ≤ 127 ∧ c.toNat = a.toNat := by
  simp only [utf8EncodeChar, Char.toNat_val]
  split
  · simp only [List.cons.injEq, and_true]
    rw [byte_eq_iff (by omega)]
    omega
  · repeat' split
    all_goals simp
    all_goals omega

theorem encodeChar_eq_two_iff {c : Char} {a b : UInt8} : utf8EncodeChar c = [a, b] ↔
    (194 ≤ a.toNat ∧ a.toNat ≤ 223) ∧ (128 ≤ b.toNat ∧ b.toNat ≤ 191) ∧
      c.toNat = a.toNat % 32 * 64 + b.toNat % 64 := by
  simp only [utf8EncodeChar, Char.toNat_val]
  split
  · simp
    omega
  split
  · simp only [List.cons.injEq, and_true]
    rw [byte_eq_iff (by omega), byte_eq_iff (by omega)]
    omega
  · split
    all_goals simp
    all_goals omega

theorem encodeChar_eq_three_iff {c : Char} {a b d : UInt8} : utf8EncodeChar c = [a, b, d] ↔
    (224 ≤ a.toNat ∧ a.toNat ≤ 239) ∧ isSecond a b = true ∧ (128 ≤ d.toNat ∧ d.toNat ≤ 191) ∧
      c.toNat = (a.toNat % 16 * 64 + b.toNat % 64) * 64 + d.toNat % 64 := by
  have hc := toNat_valid c
  rw [isSecond_iff]
  simp only [utf8EncodeChar, Char.toNat_val]
  split
  · simp
    omega
  split
  · simp
    omega
  split
  · simp only [List.cons.injEq, and_true]
    rw [byte_eq_iff (by omega), byte_eq_iff (by omega), byte_eq_iff (by omega)]
    omega
  · simp
    omega

theorem encodeChar_eq_four_iff {c : Char} {a b d e : UInt8} : utf8EncodeChar c = [a, b, d, e] ↔
    (240 ≤ a.toNat ∧ a.toNat ≤ 244) ∧ isSecond a b = true ∧ (128 ≤ d.toNat ∧ d.toNat ≤ 191) ∧
      (128 ≤ e.toNat ∧ e.toNat ≤ 191) ∧
      c.toNat = ((a.toNat % 8 * 64 + b.toNat % 64) * 64 + d.toNat % 64) * 64 + e.toNat % 64 := by
  have hc := toNat_valid c
  rw [isSecond_iff]
  simp only [utf8EncodeChar, Char.toNat_val]
  split
  · simp
    omega
  split
  · simp
    omega
  split
  · simp
    omega
  · simp only [List.cons.injEq, and_true]
    rw [byte_eq_iff (by omega), byte_eq_iff (by omega), byte_eq_iff (by omega),
      byte_eq_iff (by omega)]
    omega

/-! ### The first item -/

/-- A byte in a range of lead bytes. -/
theorem lead_iff {a low high : UInt8} :
    (decide (low ≤ a) && decide (a ≤ high)) = true ↔
      low.toNat ≤ a.toNat ∧ a.toNat ≤ high.toNat := by
  rw [Bool.and_eq_true, decide_eq_true_iff, decide_eq_true_iff, UInt8.le_iff_toNat_le,
    UInt8.le_iff_toNat_le]

/-- A character that is read is written with the bytes that were taken. -/
theorem encodeChar_of_item {a : UInt8} {rest : List UInt8} {c : Char} {size : Nat}
    (h : item a rest = .char c size) :
    utf8EncodeChar c = a :: rest.take size ∧ size ≤ rest.length := by
  revert h
  fun_cases item a rest with
  | case1 _ ha =>
    rintro ⟨⟩
    have ha' : a.toNat < 128 := UInt8.lt_iff_toNat_lt.1 ha
    exact ⟨encodeChar_eq_one_iff.2 ⟨by omega, toNat_ofNat (by omega)⟩, Nat.zero_le _⟩
  | case3 _ ha b r hb =>
    rintro ⟨⟩
    have ha' := lead_iff.1 ha
    have hb' := isTail_iff.1 hb
    simp only [UInt8.reduceToNat, tailBits] at ha' ⊢
    exact ⟨encodeChar_eq_two_iff.2 ⟨ha', hb', toNat_ofNat (by omega)⟩, by simp⟩
  | case8 _ _ ha b hb d r hd =>
    rintro ⟨⟩
    have ha' := lead_iff.1 ha
    have hb' : isSecond a b = true := by simpa using hb
    have hb'' := isSecond_iff.1 hb'
    have hd' := isTail_iff.1 hd
    simp only [UInt8.reduceToNat, tailBits] at ha' ⊢
    exact ⟨encodeChar_eq_three_iff.2 ⟨ha', hb', hd', toNat_ofNat (by omega)⟩, by simp⟩
  | case15 _ _ _ ha b hb d hd e r he =>
    rintro ⟨⟩
    have ha' := lead_iff.1 ha
    have hb' : isSecond a b = true := by simpa using hb
    have hb'' := isSecond_iff.1 hb'
    have hd' : 128 ≤ d.toNat ∧ d.toNat ≤ 191 := isTail_iff.1 (by simpa using hd)
    have he' := isTail_iff.1 he
    simp only [UInt8.reduceToNat, tailBits] at ha' ⊢
    exact ⟨encodeChar_eq_four_iff.2 ⟨ha', hb', hd', he', toNat_ofNat (by omega)⟩, by simp⟩
  | _ => exact nofun

/-- The bytes of a character are read as this character, whatever follows. -/
theorem item_of_encodeChar {a : UInt8} {bytes : List UInt8} {c : Char}
    (h : utf8EncodeChar c = a :: bytes) (rest : List UInt8) :
    item a (bytes ++ rest) = .char c bytes.length := by
  have hleads : ∀ low high : UInt8, ((decide (low ≤ a) && decide (a ≤ high)) = true) =
      (low.toNat ≤ a.toNat ∧ a.toNat ≤ high.toNat) := fun _ _ => propext lead_iff
  match bytes, h with
  | [], h =>
    obtain ⟨ha, hc⟩ := encodeChar_eq_one_iff.1 h
    have h₁ : a < 0x80 := UInt8.lt_iff_toNat_lt.2 (Nat.lt_succ_of_le ha)
    simp only [item, if_pos h₁, ← hc, Char.ofNat_toNat, List.length_nil]
  | [b], h =>
    obtain ⟨ha, hb, hc⟩ := encodeChar_eq_two_iff.1 h
    simp only [item, hleads, UInt8.lt_iff_toNat_lt, UInt8.reduceToNat, List.cons_append]
    rw [if_neg (by omega), if_pos ha, if_pos (isTail_iff.2 hb), tailBits, ← hc, Char.ofNat_toNat]
    rfl
  | [b, d], h =>
    obtain ⟨ha, hb, hd, hc⟩ := encodeChar_eq_three_iff.1 h
    simp only [item, hleads, UInt8.lt_iff_toNat_lt, UInt8.reduceToNat, List.cons_append]
    rw [if_neg (by omega), if_neg (by omega), if_pos ha, hb, if_neg (by decide),
      if_pos (isTail_iff.2 hd), tailBits, tailBits, ← hc, Char.ofNat_toNat]
    rfl
  | [b, d, e], h =>
    obtain ⟨ha, hb, hd, he, hc⟩ := encodeChar_eq_four_iff.1 h
    simp only [item, hleads, UInt8.lt_iff_toNat_lt, UInt8.reduceToNat, List.cons_append]
    rw [if_neg (by omega), if_neg (by omega), if_neg (by omega), if_pos ha, hb,
      if_neg (by decide), isTail_iff.2 hd, if_neg (by decide), if_pos (isTail_iff.2 he), tailBits,
      tailBits, tailBits, ← hc, Char.ofNat_toNat]
    rfl
  | b :: d :: e :: f :: bytes, h =>
    have hlength := congrArg List.length h
    have hle := c.utf8Size_le_four
    rw [String.length_utf8EncodeChar] at hlength
    simp only [List.length_cons] at hlength
    omega

/-! ### Texts -/

/-- The bytes of a text begin with those of its first character. -/
theorem cons_eq_flatMap {a : UInt8} {rest : List UInt8} {cs : List Char}
    (h : a :: rest = cs.flatMap utf8EncodeChar) :
    ∃ c ds, cs = c :: ds ∧ ∃ bytes, utf8EncodeChar c = a :: bytes ∧
      rest = bytes ++ ds.flatMap utf8EncodeChar := by
  cases cs with
  | nil => cases h
  | cons c ds =>
    rw [List.flatMap_cons] at h
    cases hc : utf8EncodeChar c with
    | nil => exact absurd hc String.utf8EncodeChar_ne_nil
    | cons b bytes =>
      rw [hc, List.cons_append, List.cons.injEq] at h
      exact ⟨c, ds, rfl, bytes, by rw [h.1, hc], h.2⟩

/-- Bytes are read as characters exactly if they are the bytes of these characters. -/
theorem decodeFrom_eq_ok_iff {index : Nat} {bytes : List UInt8} {cs : List Char} :
    decodeFrom index bytes = .ok cs ↔ bytes = cs.flatMap utf8EncodeChar := by
  fun_induction decodeFrom index bytes generalizing cs with
  | case1 index =>
    cases cs with
    | nil => exact ⟨fun _ => rfl, fun _ => rfl⟩
    | cons c ds =>
      rw [List.flatMap_cons]
      refine ⟨nofun, fun h => absurd (List.append_eq_nil_iff.1 h.symm).1 ?_⟩
      exact String.utf8EncodeChar_ne_nil
  | case2 index a rest c size hitem ih =>
    constructor
    · intro h
      obtain ⟨ds, hds, rfl⟩ := map_eq_ok_iff.1 h
      obtain ⟨hbytes, -⟩ := encodeChar_of_item hitem
      rw [List.flatMap_cons, hbytes, ← ih.1 hds, List.cons_append, List.take_append_drop]
    · intro h
      obtain ⟨d, ds, rfl, bytes, hd, rfl⟩ := cons_eq_flatMap h
      rw [item_of_encodeChar hd] at hitem
      cases hitem
      rw [ih.2 (List.drop_left ..)]
      rfl
  | case3 index a rest size hitem =>
    refine ⟨nofun, fun h => ?_⟩
    obtain ⟨d, ds, -, bytes, hd, rfl⟩ := cons_eq_flatMap h
    rw [item_of_encodeChar hd] at hitem
    cases hitem
  | case4 index a rest hitem =>
    refine ⟨nofun, fun h => ?_⟩
    obtain ⟨d, ds, -, bytes, hd, rfl⟩ := cons_eq_flatMap h
    rw [item_of_encodeChar hd] at hitem
    cases hitem

/-- Reading accepts exactly what writing produces. -/
theorem decode_eq_ok_iff {bytes : List UInt8} {s : String} :
    decode bytes = .ok s ↔ bytes = encode s := by
  rw [decode, map_eq_ok_iff, encode]
  constructor
  · rintro ⟨cs, hcs, rfl⟩
    rw [decodeFrom_eq_ok_iff.1 hcs, String.toList_ofList]
  · intro h
    exact ⟨s.toList, decodeFrom_eq_ok_iff.2 h, String.ofList_toList⟩

/-- No two texts are written alike. -/
theorem encode_inj {s t : String} : encode s = encode t ↔ s = t := by
  constructor
  · intro h
    have hs := decode_eq_ok_iff.2 (Eq.refl (encode s))
    rw [h, decode_eq_ok_iff.2 (Eq.refl (encode t))] at hs
    exact (Except.ok.inj hs).symm
  · exact congrArg encode

/-- Characters of one byte. -/
theorem encode_ascii {bytes : List UInt8} (h : ∀ b ∈ bytes, b.toNat ≤ 127) :
    encode (String.ofList (bytes.map fun b => Char.ofNat b.toNat)) = bytes := by
  rw [encode, String.toList_ofList]
  induction bytes with
  | nil => rfl
  | cons b rest ih =>
    obtain ⟨hb, hrest⟩ := List.forall_mem_cons.1 h
    have hchar : utf8EncodeChar (Char.ofNat b.toNat) = [b] :=
      encodeChar_eq_one_iff.2 ⟨hb, toNat_ofNat (by omega)⟩
    rw [List.map_cons, List.flatMap_cons, hchar, ih hrest, List.singleton_append]

/-! ### Characters of one byte -/

theorem toNat_of_mem_encodeChar {c : Char} {b : UInt8} (h : b ∈ utf8EncodeChar c)
    (hb : b.toNat < 128) : c.toNat = b.toNat := by
  simp only [utf8EncodeChar, Char.toNat_val] at h
  have hvalid := toNat_valid c
  split at h
  · rw [List.mem_singleton, eq_comm, byte_eq_iff (by omega)] at h
    omega
  · repeat' split at h
    all_goals
      simp only [List.mem_cons, List.not_mem_nil, or_false, ← UInt8.toNat_inj,
        UInt8.toNat_ofNat'] at h
      omega

/-- A byte below 128 spells a character by itself. -/
theorem exists_mem_of_mem_encode {s : String} {b : UInt8} (h : b ∈ encode s) (hb : b.toNat < 128) :
    ∃ c ∈ s.toList, c.toNat = b.toNat := by
  obtain ⟨c, hc, hbytes⟩ := List.mem_flatMap.1 h
  exact ⟨c, hc, toNat_of_mem_encodeChar hbytes hb⟩

theorem length_encodeChar_of_ascii {c : Char} (h : c.toNat < 128) :
    (utf8EncodeChar c).length = 1 := by
  have hnumber : c.toNat = (UInt8.ofNat c.toNat).toNat := (byte_eq_iff (by omega)).1 rfl
  have hone : utf8EncodeChar c = [UInt8.ofNat c.toNat] :=
    encodeChar_eq_one_iff.2 ⟨by omega, hnumber⟩
  rw [hone, List.length_singleton]

/-- Characters below 128 take a byte each. -/
theorem length_encode_of_ascii {s : String} (h : ∀ c ∈ s.toList, c.toNat < 128) :
    (encode s).length = s.toList.length := by
  rw [encode, List.length_flatMap]
  have hones : s.toList.map (fun c => (utf8EncodeChar c).length) = s.toList.map fun _ => 1 :=
    List.map_congr_left fun c hc => length_encodeChar_of_ascii (h c hc)
  rw [hones, List.map_const', List.sum_replicate_nat, Nat.mul_one]

end TokenConsole.Text.Utf8
