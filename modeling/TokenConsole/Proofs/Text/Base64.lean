import TokenConsole.Proofs.Text.Blank
import TokenConsole.Proofs.Text.Utf8
import TokenConsole.Text.Base64

/-!
# The one encoding of bytes

Decoding accepts exactly what encoding writes, so bytes have one encoding: no text with missing
padding, with stray bits or with foreign symbols is accepted.
-/
namespace TokenConsole.Text.Base64

/-! ### Symbols -/

theorem value?_symbol {n : Nat} (h : n < 64) : value? (symbol n) = some n := by
  have hall : ∀ n < 64, value? (symbol n) = some n := by decide
  exact hall n h

theorem symbol_ne_pad {n : Nat} (h : n < 64) : symbol n ≠ pad := by
  have hall : ∀ n < 64, symbol n ≠ pad := by decide
  exact hall n h

/-- Each value has one symbol. -/
theorem value?_eq_some_iff {b : UInt8} {n : Nat} : value? b = some n ↔ n < 64 ∧ b = symbol n := by
  constructor
  · intro h
    have hall : ∀ m < 256, ∀ v ∈ value? (UInt8.ofNat m), v < 64 ∧ UInt8.ofNat m = symbol v := by
      decide +kernel
    have hb := hall b.toNat b.toNat_lt
    rw [UInt8.ofNat_toNat] at hb
    exact hb n h
  · rintro ⟨hn, rfl⟩
    exact value?_symbol hn

theorem values_eq_ok_iff {offset : Nat} {bs : List UInt8} {vs : List Nat} :
    values offset bs = .ok vs ↔ (∀ v ∈ vs, v < 64) ∧ bs = vs.map symbol := by
  induction bs generalizing offset vs with
  | nil =>
    cases vs with
    | nil => simp [values]
    | cons v vs => simp [values]
  | cons b rest ih =>
    rw [values]
    split
    · next hb =>
      refine ⟨nofun, fun ⟨hlt, hvs⟩ => ?_⟩
      cases vs with
      | nil => cases hvs
      | cons v vs =>
        rw [List.map_cons, List.cons.injEq] at hvs
        rw [value?_eq_some_iff.2 ⟨hlt v List.mem_cons_self, hvs.1⟩] at hb
        cases hb
    · next v hb =>
      obtain ⟨hv, rfl⟩ := value?_eq_some_iff.1 hb
      rw [map_eq_ok_iff]
      constructor
      · rintro ⟨us, hus, rfl⟩
        obtain ⟨hlt, rfl⟩ := ih.1 hus
        exact ⟨List.forall_mem_cons.2 ⟨hv, hlt⟩, rfl⟩
      · rintro ⟨hlt, hvs⟩
        cases vs with
        | nil => cases hvs
        | cons u us =>
          rw [List.map_cons, List.cons.injEq] at hvs
          obtain ⟨hu, hus⟩ := List.forall_mem_cons.1 hlt
          have hu' := value?_symbol hu
          rw [← hvs.1, value?_symbol hv] at hu'
          cases hu'
          exact ⟨us, ih.2 ⟨hus, hvs.2⟩, rfl⟩

/-! ### Groups

Up to three bytes make a group. Its values are one more than its bytes; what they lack to four is
padding. -/

/-- The values that one, two or three bytes are encoded by. -/
def groupValues : List UInt8 → List Nat
  | [x] => [x.toNat / 4, x.toNat % 4 * 16]
  | [x, y] => [x.toNat / 4, x.toNat % 4 * 16 + y.toNat / 16, y.toNat % 16 * 4]
  | [x, y, z] =>
    [x.toNat / 4, x.toNat % 4 * 16 + y.toNat / 16, y.toNat % 16 * 4 + z.toNat / 64, z.toNat % 64]
  | _ => []

/-- Bytes that make a group. -/
inductive IsGroup : List UInt8 → Prop where
  | one (x : UInt8) : IsGroup [x]
  | two (x y : UInt8) : IsGroup [x, y]
  | three (x y z : UInt8) : IsGroup [x, y, z]

theorem ofNat_eq {n : Nat} {x : UInt8} (h : n = x.toNat) : UInt8.ofNat n = x := by
  rw [h, UInt8.ofNat_toNat]

namespace IsGroup

variable {g : List UInt8}

theorem groupBytes_groupValues (h : IsGroup g) : groupBytes (groupValues g) = g := by
  cases h with
  | one x =>
    have hx := x.toNat_lt
    have h₁ : UInt8.ofNat (x.toNat / 4 * 4 + x.toNat % 4 * 16 / 16) = x := ofNat_eq (by omega)
    rw [groupValues, groupBytes, h₁]
  | two x y =>
    have hy := y.toNat_lt
    rw [groupValues, groupBytes, List.cons.injEq, List.cons.injEq]
    exact ⟨ofNat_eq (by omega), ofNat_eq (by omega), rfl⟩
  | three x y z =>
    have hy := y.toNat_lt
    have hz := z.toNat_lt
    rw [groupValues, groupBytes, List.cons.injEq, List.cons.injEq, List.cons.injEq]
    exact ⟨ofNat_eq (by omega), ofNat_eq (by omega), ofNat_eq (by omega), rfl⟩

theorem groupValues_lt (h : IsGroup g) : ∀ v ∈ groupValues g, v < 64 := by
  cases h with
  | one x =>
    have hx := x.toNat_lt
    simp only [groupValues, List.forall_mem_cons]
    exact ⟨by omega, by omega, nofun⟩
  | two x y =>
    have hx := x.toNat_lt
    have hy := y.toNat_lt
    simp only [groupValues, List.forall_mem_cons]
    exact ⟨by omega, by omega, by omega, nofun⟩
  | three x y z =>
    have hx := x.toNat_lt
    have hy := y.toNat_lt
    have hz := z.toNat_lt
    simp only [groupValues, List.forall_mem_cons]
    exact ⟨by omega, by omega, by omega, by omega, nofun⟩

theorem strayBits_groupValues (h : IsGroup g) : strayBits (groupValues g) = 0 := by
  cases h with
  | one x => exact Nat.mul_mod_left ..
  | two x y => exact Nat.mul_mod_left ..
  | three x y z => rfl

theorem encode_eq (h : IsGroup g) : encode g =
    (groupValues g).map symbol ++ List.replicate (4 - (groupValues g).length) pad := by
  cases h with
  | one x => rfl
  | two x y => rfl
  | three x y z => rfl

theorem length_bounds (h : IsGroup g) : 1 ≤ g.length ∧ g.length ≤ 3 := by
  cases h with
  | one x => simp
  | two x y => simp
  | three x y z => simp

theorem length_groupValues (h : IsGroup g) : (groupValues g).length = g.length + 1 := by
  cases h with
  | one x => rfl
  | two x y => rfl
  | three x y z => rfl

end IsGroup

theorem toNat_ofNat {n : Nat} (h : n < 256) : (UInt8.ofNat n).toNat = n :=
  UInt8.toNat_ofNat_of_lt' h

/-- Two to four values without stray bits are those of a group. -/
theorem groupValues_groupBytes {vs : List Nat} (hlt : ∀ v ∈ vs, v < 64) (htwo : 2 ≤ vs.length)
    (hfour : vs.length ≤ 4) (hstray : strayBits vs = 0) :
    IsGroup (groupBytes vs) ∧ groupValues (groupBytes vs) = vs := by
  match vs with
  | [p, q] =>
    simp only [List.forall_mem_cons] at hlt
    rw [strayBits] at hstray
    have hx : (UInt8.ofNat (p * 4 + q / 16)).toNat = p * 4 + q / 16 := toNat_ofNat (by omega)
    refine ⟨.one _, ?_⟩
    simp only [groupBytes, groupValues, hx, List.cons.injEq, and_true]
    omega
  | [p, q, r] =>
    simp only [List.forall_mem_cons] at hlt
    rw [strayBits] at hstray
    have hx : (UInt8.ofNat (p * 4 + q / 16)).toNat = p * 4 + q / 16 := toNat_ofNat (by omega)
    have hy : (UInt8.ofNat (q % 16 * 16 + r / 4)).toNat = q % 16 * 16 + r / 4 :=
      toNat_ofNat (by omega)
    refine ⟨.two .., ?_⟩
    simp only [groupBytes, groupValues, hx, hy, List.cons.injEq, and_true]
    omega
  | [p, q, r, s] =>
    simp only [List.forall_mem_cons] at hlt
    have hx : (UInt8.ofNat (p * 4 + q / 16)).toNat = p * 4 + q / 16 := toNat_ofNat (by omega)
    have hy : (UInt8.ofNat (q % 16 * 16 + r / 4)).toNat = q % 16 * 16 + r / 4 :=
      toNat_ofNat (by omega)
    have hz : (UInt8.ofNat (r % 4 * 64 + s)).toNat = r % 4 * 64 + s := toNat_ofNat (by omega)
    refine ⟨.three .., ?_⟩
    simp only [groupBytes, groupValues, hx, hy, hz, List.cons.injEq, and_true]
    omega

/-! ### The last group -/

/-- Symbols of values are told from the padding behind them. -/
theorem symbols_append_padding {vs : List Nat} (hlt : ∀ v ∈ vs, v < 64) (n : Nat) :
    (vs.map symbol ++ List.replicate n pad).takeWhile (· != pad) = vs.map symbol ∧
      (vs.map symbol ++ List.replicate n pad).dropWhile (· != pad) = List.replicate n pad := by
  have hsymbols : ∀ b ∈ vs.map symbol, (b != pad) = true := by
    intro b hb
    obtain ⟨v, hv, rfl⟩ := List.mem_map.1 hb
    exact bne_iff_ne.2 (symbol_ne_pad (hlt v hv))
  rw [List.takeWhile_append_of_pos hsymbols, List.dropWhile_append_of_pos hsymbols]
  cases n with
  | zero => simp
  | succ n => simp [List.replicate_succ]

/-- What the last group holds: values in its first places, and padding behind two at least. -/
theorem lastValues_eq_ok_iff {offset : Nat} {group : List UInt8} {vs : List Nat} :
    lastValues offset group = .ok vs ↔ (∀ v ∈ vs, v < 64) ∧
      ∃ n, group = vs.map symbol ++ List.replicate n pad ∧ (0 < n → 2 ≤ vs.length) := by
  constructor
  · intro h
    have hsplit := List.takeWhile_append_dropWhile (p := (· != pad)) (l := group)
    simp only [lastValues] at h
    split at h
    · cases h
    · next us hus =>
      split at h
      · cases h
      · next hpad =>
        cases h
        obtain ⟨hlt, hsymbols⟩ := values_eq_ok_iff.1 hus
        rw [hsymbols] at hsplit hpad
        rw [List.length_map] at hpad
        have hall : ∀ b ∈ group.dropWhile (· != pad), b = pad := by
          intro b hb
          refine Decidable.byContradiction fun hne => ?_
          refine hpad ⟨List.ne_nil_of_mem hb, .inr ?_⟩
          exact List.any_eq_true.2 ⟨b, hb, bne_iff_ne.2 hne⟩
        refine ⟨hlt, (group.dropWhile (· != pad)).length, ?_, fun hpos => ?_⟩
        · rw [← List.eq_replicate_of_mem hall, hsplit]
        · refine Nat.le_of_not_lt fun hshort => ?_
          exact hpad ⟨List.ne_nil_of_length_pos hpos, .inl hshort⟩
  · rintro ⟨hlt, n, rfl, htwo⟩
    obtain ⟨htake, hdrop⟩ := symbols_append_padding hlt n
    have hvalues : values offset (vs.map symbol) = .ok vs := values_eq_ok_iff.2 ⟨hlt, rfl⟩
    simp only [lastValues, htake, hdrop, hvalues]
    rw [if_neg]
    rintro ⟨hne, hshort | hany⟩
    · rw [List.length_map] at hshort
      have hpos : 0 < n := Nat.pos_of_ne_zero fun hn => hne (by rw [hn, List.replicate_zero])
      exact absurd (htwo hpos) (Nat.not_le_of_lt hshort)
    · obtain ⟨b, hb, hne⟩ := List.any_eq_true.1 hany
      exact bne_iff_ne.1 hne (List.eq_of_mem_replicate hb)

theorem decodeLast_eq_ok_iff {offset : Nat} {group bytes : List UInt8} (hfour : group.length ≤ 4) :
    decodeLast offset group = .ok bytes ↔
      group = [] ∧ bytes = [] ∨ IsGroup bytes ∧ group = encode bytes := by
  constructor
  · intro h
    rw [decodeLast] at h
    split at h
    · cases h
    · next vs hvs =>
      obtain ⟨hlt, n, hgroup, -⟩ := lastValues_eq_ok_iff.1 hvs
      split at h
      · next hnil =>
        cases h
        exact .inl ⟨hnil, rfl⟩
      split at h
      · cases h
      split at h
      · cases h
      split at h
      · cases h
      · next hnil htwo hwhole hstray =>
        cases h
        have hlength := congrArg List.length hgroup
        rw [List.length_append, List.length_map, List.length_replicate] at hlength
        have htwo' : 2 ≤ vs.length := Nat.le_of_not_lt htwo
        obtain ⟨hg, hvalues⟩ :=
          groupValues_groupBytes hlt htwo' (by omega) (Decidable.not_not.1 hstray)
        refine .inr ⟨hg, ?_⟩
        have hn : n = 4 - vs.length := by omega
        rw [hg.encode_eq, hvalues, hgroup, hn]
  · rintro (⟨rfl, rfl⟩ | ⟨hg, rfl⟩)
    · rfl
    · have hle := hg.length_groupValues
      have hsize : 1 ≤ bytes.length ∧ bytes.length ≤ 3 := hg.length_bounds
      have hvs : lastValues offset (encode bytes) = .ok (groupValues bytes) :=
        lastValues_eq_ok_iff.2 ⟨hg.groupValues_lt, _, hg.encode_eq, fun _ => by omega⟩
      have hlength : (encode bytes).length = 4 := by
        rw [hg.encode_eq, List.length_append, List.length_map, List.length_replicate]
        omega
      have hne : encode bytes ≠ [] := List.ne_nil_of_length_eq_add_one hlength
      have htwo : ¬(groupValues bytes).length < 2 := by omega
      have hwhole : ¬(encode bytes).length % 4 ≠ 0 := by omega
      simp only [decodeLast, hvs]
      rw [if_neg hne, if_neg htwo, if_neg hwhole, hg.strayBits_groupValues,
        if_neg (not_not_intro rfl), hg.groupBytes_groupValues]

/-! ### All groups -/

/-- The encoding of three bytes stands in front of that of the bytes behind them. -/
theorem encode_full (x y z : UInt8) (rest : List UInt8) :
    encode (x :: y :: z :: rest) = (groupValues [x, y, z]).map symbol ++ encode rest := rfl

theorem encode_ne_nil {b : UInt8} {rest : List UInt8} : encode (b :: rest) ≠ [] := by
  match rest with
  | [] | [_] | _ :: _ :: _ => simp [encode]

/-- More than four symbols encode more than three bytes. -/
theorem long_eq_encode {a b c d e : UInt8} {rest bytes : List UInt8}
    (h : a :: b :: c :: d :: e :: rest = encode bytes) :
    ∃ x y z tail, bytes = x :: y :: z :: tail ∧
      [a, b, c, d] = (groupValues [x, y, z]).map symbol ∧ e :: rest = encode tail := by
  match bytes with
  | [] => cases h
  | [x] => cases h
  | [x, y] => cases h
  | x :: y :: z :: tail =>
    have hsplit : [a, b, c, d] ++ e :: rest =
        (groupValues [x, y, z]).map symbol ++ encode tail := h
    exact ⟨x, y, z, tail, rfl, List.append_inj hsplit rfl⟩

theorem short_eq_encode {group bytes : List UInt8} (hfour : group.length ≤ 4) :
    group = [] ∧ bytes = [] ∨ IsGroup bytes ∧ group = encode bytes ↔ group = encode bytes := by
  constructor
  · rintro (⟨rfl, rfl⟩ | ⟨-, h⟩)
    · rfl
    · exact h
  · intro h
    match bytes with
    | [] => exact .inl ⟨h, rfl⟩
    | [x] => exact .inr ⟨.one x, h⟩
    | [x, y] => exact .inr ⟨.two x y, h⟩
    | [x, y, z] => exact .inr ⟨.three x y z, h⟩
    | x :: y :: z :: w :: rest =>
      rw [h, encode_full, List.length_append] at hfour
      have hpos : 0 < (encode (w :: rest)).length := List.length_pos_iff.2 encode_ne_nil
      have hlength : ((groupValues [x, y, z]).map symbol).length = 4 := rfl
      omega

theorem decodeGroups_eq_ok_iff {offset : Nat} {s bytes : List UInt8} :
    decodeGroups offset s = .ok bytes ↔ s = encode bytes := by
  fun_induction decodeGroups offset s generalizing bytes with
  | case1 offset a b c d e rest fault hfault =>
    refine ⟨nofun, fun h => ?_⟩
    obtain ⟨x, y, z, tail, -, hgroup, -⟩ := long_eq_encode h
    have hg : IsGroup [x, y, z] := .three x y z
    rw [values_eq_ok_iff.2 ⟨hg.groupValues_lt, hgroup⟩] at hfault
    cases hfault
  | case2 offset a b c d e rest vs hvs ih =>
    rw [map_eq_ok_iff]
    obtain ⟨hlt, hgroup⟩ := values_eq_ok_iff.1 hvs
    constructor
    · rintro ⟨tail, htail, rfl⟩
      match vs with
      | [p, q, r, s] =>
        obtain ⟨-, hvalues⟩ := groupValues_groupBytes hlt (by simp) (by simp) rfl
        rw [ih.1 htail]
        change [a, b, c, d] ++ encode tail =
          (groupValues (groupBytes [p, q, r, s])).map symbol ++ encode tail
        rw [hgroup, hvalues]
    · intro h
      obtain ⟨x, y, z, tail, rfl, hgroup', htail⟩ := long_eq_encode h
      have hg : IsGroup [x, y, z] := .three x y z
      rw [values_eq_ok_iff.2 ⟨hg.groupValues_lt, hgroup'⟩] at hvs
      cases hvs
      exact ⟨tail, ih.2 htail, by rw [hg.groupBytes_groupValues]; rfl⟩
  | case3 offset group hshort =>
    have hfour : group.length ≤ 4 := by
      match group with
      | [] | [_] | [_, _] | [_, _, _] | [_, _, _, _] => simp
      | a :: b :: c :: d :: e :: rest => exact absurd rfl (hshort a b c d e rest)
    rw [decodeLast_eq_ok_iff hfour, short_eq_encode hfour]

theorem length_encode (bytes : List UInt8) : (encode bytes).length % 4 = 0 := by
  fun_induction encode bytes with
  | case1 => rfl
  | case2 x => simp
  | case3 x y => simp
  | case4 x y z rest ih =>
    simp only [List.length_cons]
    omega

/-- Decoding accepts exactly what encoding writes. -/
theorem decode_eq_ok_iff {s bytes : List UInt8} : decode s = .ok bytes ↔ s = encode bytes := by
  simp only [decode]
  split
  · next h =>
    refine ⟨nofun, ?_⟩
    rintro rfl
    have hlength := length_encode bytes
    omega
  · exact decodeGroups_eq_ok_iff

/-! ### As text -/

theorem mem_encode {bytes : List UInt8} {b : UInt8} (h : b ∈ encode bytes) :
    (∃ n < 64, b = symbol n) ∨ b = pad := by
  have hvalues : ∀ {g : List UInt8}, IsGroup g → b ∈ (groupValues g).map symbol →
      ∃ n < 64, b = symbol n := by
    intro g hg hb
    obtain ⟨n, hn, rfl⟩ := List.mem_map.1 hb
    exact ⟨n, hg.groupValues_lt n hn, rfl⟩
  have hshort : ∀ {g : List UInt8}, IsGroup g → b ∈ encode g →
      (∃ n < 64, b = symbol n) ∨ b = pad := by
    intro g hg hb
    rw [hg.encode_eq, List.mem_append] at hb
    exact hb.imp (hvalues hg) List.eq_of_mem_replicate
  fun_induction encode bytes with
  | case1 => cases h
  | case2 x => exact hshort (.one x) h
  | case3 x y => exact hshort (.two x y) h
  | case4 x y z rest ih =>
    have hfull : b ∈ (groupValues [x, y, z]).map symbol ++ encode rest := h
    rcases List.mem_append.1 hfull with hb | hb
    · exact .inl (hvalues (.three x y z) hb)
    · exact ih hb

/-- An encoding is made of characters of one byte, none of them white space. -/
theorem plain_of_mem_encode {bytes : List UInt8} {b : UInt8} (h : b ∈ encode bytes) :
    b.toNat ≤ 127 ∧ isSpace (Char.ofNat b.toNat) = false := by
  have hsymbols : ∀ n < 64,
      (symbol n).toNat ≤ 127 ∧ isSpace (Char.ofNat (symbol n).toNat) = false := by decide
  rcases mem_encode h with ⟨n, hn, rfl⟩ | rfl
  · exact hsymbols n hn
  · decide

/-- The bytes of an encoding that is a text. -/
theorem encode_encodeText (bytes : List UInt8) : Utf8.encode (encodeText bytes) = encode bytes :=
  Utf8.encode_ascii fun _ hb => (plain_of_mem_encode hb).1

/-- A text is decoded to bytes exactly if it is their encoding. -/
theorem decode_text_eq_ok_iff {s : String} {bytes : List UInt8} :
    decode (Utf8.encode s) = .ok bytes ↔ s = encodeText bytes := by
  rw [decode_eq_ok_iff, ← encode_encodeText, Utf8.encode_inj]

/-- An encoding has no white space that could be trimmed, and it survives what stands around
it. -/
theorem trim_encodeText {before after : String} (hbefore : isBlank before = true)
    (hafter : isBlank after = true) (bytes : List UInt8) :
    trim (before ++ encodeText bytes ++ after) = encodeText bytes := by
  have hplain : ∀ c ∈ (encodeText bytes).toList, isSpace c = false := by
    intro c hc
    rw [encodeText, String.toList_ofList] at hc
    obtain ⟨b, hb, rfl⟩ := List.mem_map.1 hc
    exact (plain_of_mem_encode hb).2
  rw [trim, String.toList_append, String.toList_append, trimChars_append hbefore hafter,
    trimChars_eq_self hplain, String.ofList_toList]

end TokenConsole.Text.Base64
