import TokenConsole.Proofs.Json.Lexical

/-!
# The grammar of JSON

How values, items and members are written, and that the reader takes exactly the texts that the
grammar derives. Each step that the reader counts goes along with a bracket or a comma, so that a
bound of two steps a byte never cuts a text off.

Bytes stand as numbers: 34 is the quote, 44 the comma, 45 the minus, 58 the colon, 91 and 93 are the
brackets, 123 and 125 the braces.
-/
namespace TokenConsole.Json.Raw

/-- A part of a text that has values in it: a value, or the items or the members of one up to the
bracket that closes it. -/
inductive Phrase where
  | value (v : Raw)
  | items (vs : List Raw)
  | members (ms : List (Option String × Raw))

/-- A key of a member, with the colon behind it. -/
inductive Key : Option String → List UInt8 → Prop where
  | intro {ps : List Piece} {s gap : List UInt8} (hs : Spells ps s) (hgap : Space gap) :
    Key (pieceText ps) (34 :: (s ++ 34 :: (gap ++ [58])))

/-- How a phrase is written, from its first byte to its last. White space is written by what stands
around it, so no phrase begins or ends with it. -/
inductive Written : Phrase → List UInt8 → Prop where
  | null : Written (.value .null) [110, 117, 108, 108]
  | true : Written (.value (.bool true)) [116, 114, 117, 101]
  | false : Written (.value (.bool false)) [102, 97, 108, 115, 101]
  | string {ps : List Piece} {s : List UInt8} (hs : Spells ps s) :
    Written (.value (.string (pieceText ps))) (34 :: (s ++ [34]))
  | unsigned {n : Numeral} {s : List UInt8} (hsign : n.negative = false) (hs : Unsigned n s) :
    Written (.value (.number n)) s
  | negative {n : Numeral} {s : List UInt8} (hsign : n.negative = true) (hs : Unsigned n s) :
    Written (.value (.number n)) (45 :: s)
  | noItems {gap : List UInt8} (hgap : Space gap) :
    Written (.value (.array [])) (91 :: (gap ++ [93]))
  | array {vs : List Raw} {gap s : List UInt8} (hgap : Space gap) (hs : Written (.items vs) s) :
    Written (.value (.array vs)) (91 :: (gap ++ s))
  | noMembers {gap : List UInt8} (hgap : Space gap) :
    Written (.value (.object [])) (123 :: (gap ++ [125]))
  | object {ms : List (Option String × Raw)} {gap s : List UInt8} (hgap : Space gap)
    (hs : Written (.members ms) s) : Written (.value (.object ms)) (123 :: (gap ++ s))
  | lastItem {v : Raw} {s after : List UInt8} (hv : Written (.value v) s) (hafter : Space after) :
    Written (.items [v]) (s ++ (after ++ [93]))
  | item {v : Raw} {vs : List Raw} {s after gap more : List UInt8} (hv : Written (.value v) s)
    (hafter : Space after) (hgap : Space gap) (hmore : Written (.items vs) more) :
    Written (.items (v :: vs)) (s ++ (after ++ 44 :: (gap ++ more)))
  | lastMember {k : Option String} {v : Raw} {key gap s after : List UInt8} (hkey : Key k key)
    (hgap : Space gap) (hv : Written (.value v) s) (hafter : Space after) :
    Written (.members [(k, v)]) (key ++ (gap ++ (s ++ (after ++ [125]))))
  | member {k : Option String} {v : Raw} {ms : List (Option String × Raw)}
    {key gap s after next more : List UInt8} (hkey : Key k key) (hgap : Space gap)
    (hv : Written (.value v) s) (hafter : Space after) (hnext : Space next)
    (hmore : Written (.members ms) more) :
    Written (.members ((k, v) :: ms)) (key ++ (gap ++ (s ++ (after ++ 44 :: (next ++ more)))))

/-- A text of the value, with white space around it. -/
def TextOf (v : Raw) (bytes : List UInt8) : Prop :=
  ∃ before s after, Space before ∧ Written (.value v) s ∧ Space after ∧
    bytes = before ++ (s ++ after)

/-- The reader takes the phrase off the front of `s` and leaves `rest`. -/
def Takes (fuel : Nat) (s rest : List UInt8) : Phrase → Prop
  | .value v => value fuel s = some (v, rest)
  | .items vs => items fuel s = some (vs, rest)
  | .members ms => members fuel s = some (ms, rest)

/-- Within `fuel` steps the reader takes nothing but phrases, maybe behind white space. -/
def Sound (fuel : Nat) : Prop :=
  ∀ {p : Phrase} {s rest : List UInt8}, Takes fuel s rest p →
    ∃ gap text, Space gap ∧ Written p text ∧ s = gap ++ (text ++ rest)

/-- Within `fuel` steps the reader takes every phrase of fewer than half as many bytes, if nothing
behind it continues a numeral. -/
def Complete (fuel : Nat) : Prop :=
  ∀ {p : Phrase} {text gap rest : List UInt8}, Written p text → Space gap → Apart rest →
    2 * text.length < fuel → Takes fuel (gap ++ (text ++ rest)) rest p

variable {fuel : Nat} {s rest : List UInt8}

/-! ### What is read is written -/

theorem Sound.value {v : Raw} (ih : Sound fuel) (h : Raw.value (fuel + 1) s = some (v, rest)) :
    ∃ gap text, Space gap ∧ Written (.value v) text ∧ s = gap ++ (text ++ rest) := by
  obtain ⟨gap, hgap, hs⟩ := exists_gap s
  rw [Raw.value] at h
  generalize skipSpace s = t at h hs
  subst hs
  split at h
  · cases h
    exact ⟨gap, _, hgap, .null, rfl⟩
  · cases h
    exact ⟨gap, _, hgap, .true, rfl⟩
  · cases h
    exact ⟨gap, _, hgap, .false, rfl⟩
  · next r =>
    obtain ⟨⟨ps, r'⟩, hps, h⟩ := Option.map_eq_some_iff.1 h
    cases h
    obtain ⟨bytes, hbytes, rfl⟩ := spells_of_pieces hps
    exact ⟨gap, _, hgap, .string hbytes, by simp⟩
  · next r =>
    obtain ⟨⟨n, r'⟩, hn, h⟩ := Option.map_eq_some_iff.1 h
    cases h
    obtain ⟨hsign, bytes, hbytes, rfl⟩ := unsigned_of_numeral hn
    exact ⟨gap, _, hgap, .negative hsign hbytes, rfl⟩
  · next r =>
    obtain ⟨inner, hinner, hr⟩ := exists_gap r
    generalize skipSpace r = t at h hr
    subst hr
    split at h
    · cases h
      exact ⟨gap, _, hgap, .noItems hinner, by simp⟩
    · obtain ⟨⟨vs, r'⟩, hvs, h⟩ := Option.map_eq_some_iff.1 h
      cases h
      obtain ⟨more, text, hmore, htext, rfl⟩ := ih (p := .items vs) hvs
      exact ⟨gap, _, hgap, .array (hinner.append hmore) htext, by simp⟩
  · next r =>
    obtain ⟨inner, hinner, hr⟩ := exists_gap r
    generalize skipSpace r = t at h hr
    subst hr
    split at h
    · cases h
      exact ⟨gap, _, hgap, .noMembers hinner, by simp⟩
    · obtain ⟨⟨ms, r'⟩, hms, h⟩ := Option.map_eq_some_iff.1 h
      cases h
      obtain ⟨more, text, hmore, htext, rfl⟩ := ih (p := .members ms) hms
      exact ⟨gap, _, hgap, .object (hinner.append hmore) htext, by simp⟩
  · obtain ⟨⟨n, r'⟩, hn, h⟩ := Option.map_eq_some_iff.1 h
    cases h
    obtain ⟨hsign, bytes, hbytes, rfl⟩ := unsigned_of_numeral hn
    exact ⟨gap, _, hgap, .unsigned hsign hbytes, rfl⟩

theorem Sound.items {vs : List Raw} (ih : Sound fuel)
    (h : Raw.items (fuel + 1) s = some (vs, rest)) :
    ∃ gap text, Space gap ∧ Written (.items vs) text ∧ s = gap ++ (text ++ rest) := by
  simp only [Raw.items, Option.bind_eq_bind, Option.bind_eq_some_iff] at h
  obtain ⟨⟨v, r⟩, hv, h⟩ := h
  obtain ⟨front, text, hfront, htext, rfl⟩ := ih (p := .value v) hv
  obtain ⟨after, hafter, hr⟩ := exists_gap r
  dsimp only at h
  generalize skipSpace r = t at h hr
  subst hr
  split at h
  · simp only [Option.bind_eq_some_iff, Option.pure_def] at h
    obtain ⟨⟨ws, r'⟩, hws, h⟩ := h
    cases h
    obtain ⟨gap, more, hgap, hmore, rfl⟩ := ih (p := .items ws) hws
    exact ⟨front, _, hfront, .item htext hafter hgap hmore, by simp⟩
  · cases h
    exact ⟨front, _, hfront, .lastItem htext hafter, by simp⟩
  · cases h

theorem Sound.members {ms : List (Option String × Raw)} (ih : Sound fuel)
    (h : Raw.members (fuel + 1) s = some (ms, rest)) :
    ∃ gap text, Space gap ∧ Written (.members ms) text ∧ s = gap ++ (text ++ rest) := by
  obtain ⟨gap, hgap, hs⟩ := exists_gap s
  rw [Raw.members] at h
  generalize skipSpace s = t at h hs
  subst hs
  split at h
  · simp only [Option.bind_eq_bind, Option.bind_eq_some_iff] at h
    obtain ⟨⟨ps, r₁⟩, hps, h⟩ := h
    obtain ⟨key, hkey, rfl⟩ := spells_of_pieces hps
    obtain ⟨before, hbefore, hr₁⟩ := exists_gap r₁
    dsimp only at h
    generalize skipSpace r₁ = t at h hr₁
    subst hr₁
    split at h
    · simp only [Option.bind_eq_some_iff] at h
      obtain ⟨⟨v, r₂⟩, hv, h⟩ := h
      obtain ⟨front, text, hfront, htext, rfl⟩ := ih (p := .value v) hv
      obtain ⟨after, hafter, hr₂⟩ := exists_gap r₂
      dsimp only at h
      generalize skipSpace r₂ = t at h hr₂
      subst hr₂
      split at h
      · simp only [Option.bind_eq_some_iff, Option.pure_def] at h
        obtain ⟨⟨ws, r₃⟩, hws, h⟩ := h
        cases h
        obtain ⟨next, more, hnext, hmore, rfl⟩ := ih (p := .members ws) hws
        exact ⟨gap, _, hgap, .member (.intro hkey hbefore) hfront htext hafter hnext hmore, by simp⟩
      · cases h
        exact ⟨gap, _, hgap, .lastMember (.intro hkey hbefore) hfront htext hafter, by simp⟩
      · cases h
    · cases h
  · cases h

/-- However far the reader goes, it takes nothing but what is written. -/
theorem sound (fuel : Nat) : Sound fuel := by
  -- values, items and members are read by way of each other, each with a step less
  induction fuel with
  | zero =>
    intro p s rest h
    cases p with
    | value v => cases h
    | items vs => cases h
    | members ms => cases h
  | succ fuel ih =>
    intro p s rest h
    cases p with
    | value v => exact ih.value h
    | items vs => exact ih.items h
    | members ms => exact ih.members h

/-! ### What is written is read -/

/-- A byte that may begin a phrase: it can be seen, and it closes nothing. -/
def Opens (b : UInt8) : Prop := 33 ≤ b.toNat ∧ b.toNat < 128 ∧ b ≠ 93 ∧ b ≠ 125

instance : DecidablePred Opens := fun b =>
  inferInstanceAs (Decidable (33 ≤ b.toNat ∧ b.toNat < 128 ∧ b ≠ 93 ∧ b ≠ 125))

theorem opens_of_isDigitByte {b : UInt8} (h : isDigitByte b = true) : Opens b := by
  rw [isDigitByte, Bool.and_eq_true, decide_eq_true_iff, decide_eq_true_iff,
    UInt8.le_iff_toNat_le, UInt8.le_iff_toNat_le] at h
  simp only [UInt8.reduceToNat] at h
  refine ⟨by omega, by omega, ?_, ?_⟩
  · rintro rfl
    exact absurd h.2 (by decide)
  · rintro rfl
    exact absurd h.2 (by decide)

theorem Opens.not_isSpaceByte {b : UInt8} (h : Opens b) : isSpaceByte b = false := by
  have hne : ∀ n : UInt8, n.toNat < 33 → b ≠ n := by
    rintro n hn rfl
    exact absurd h.1 (by omega)
  simp [isSpaceByte, hne]

theorem Written.head {p : Phrase} (h : Written p s) : ∃ b t, s = b :: t ∧ Opens b := by
  induction h with
  | null => exact ⟨110, _, rfl, by decide⟩
  | true => exact ⟨116, _, rfl, by decide⟩
  | false => exact ⟨102, _, rfl, by decide⟩
  | string hs => exact ⟨34, _, rfl, by decide⟩
  | unsigned hsign hs =>
    obtain ⟨b, t, rfl, hb⟩ := hs.head
    exact ⟨b, t, rfl, opens_of_isDigitByte hb⟩
  | negative hsign hs => exact ⟨45, _, rfl, by decide⟩
  | noItems hgap => exact ⟨91, _, rfl, by decide⟩
  | array hgap hs ih => exact ⟨91, _, rfl, by decide⟩
  | noMembers hgap => exact ⟨123, _, rfl, by decide⟩
  | object hgap hs ih => exact ⟨123, _, rfl, by decide⟩
  | lastItem hv hafter ih =>
    obtain ⟨b, t, rfl, hb⟩ := ih
    exact ⟨b, _, rfl, hb⟩
  | item hv hafter hgap hmore ih ihmore =>
    obtain ⟨b, t, rfl, hb⟩ := ih
    exact ⟨b, _, rfl, hb⟩
  | lastMember hkey hgap hv hafter ih =>
    cases hkey
    exact ⟨34, _, rfl, by decide⟩
  | member hkey hgap hv hafter hnext hmore ih ihmore =>
    cases hkey
    exact ⟨34, _, rfl, by decide⟩

theorem skipSpace_written {p : Phrase} {gap : List UInt8} (hgap : Space gap) (h : Written p s) :
    skipSpace (gap ++ (s ++ rest)) = s ++ rest := by
  obtain ⟨b, t, rfl, hb⟩ := h.head
  rw [skipSpace_append hgap, List.cons_append, skipSpace_cons hb.not_isSpaceByte]

/-- A value that begins with a digit is a numeral. -/
theorem value_of_digit {b : UInt8} {t : List UInt8} (hskip : skipSpace s = b :: t)
    (hb : isDigitByte b = true) : value (fuel + 1) s =
      (numeral? false (b :: t)).map fun x => (.number x.1, x.2) := by
  rw [value, hskip]
  split
  all_goals
    first
    | rfl
    | next heq =>
      cases heq
      cases hb

theorem Complete.value {v : Raw} {gap text : List UInt8} (ih : Complete fuel)
    (h : Written (.value v) text) (hgap : Space gap) (hrest : Apart rest)
    (hfuel : 2 * text.length < fuel + 1) :
    Raw.value (fuel + 1) (gap ++ (text ++ rest)) = some (v, rest) := by
  have hskip : skipSpace (gap ++ (text ++ rest)) = text ++ rest := skipSpace_written hgap h
  cases h with
  | null =>
    simp only [Raw.value, hskip]
    rfl
  | true =>
    simp only [Raw.value, hskip]
    rfl
  | false =>
    simp only [Raw.value, hskip]
    rfl
  | string hs =>
    simp only [Raw.value, hskip]
    simp only [List.cons_append, List.append_assoc, List.nil_append, pieces_of_spells hs,
      Option.map_some]
  | @unsigned n s hsign hs =>
    obtain ⟨b, t, rfl, hb⟩ := hs.head
    have hread := numeral?_append hs hrest
    rw [List.cons_append] at hread hskip ⊢
    rw [hsign] at hread
    rw [value_of_digit hskip hb, hread]
    rfl
  | @negative n s hsign hs =>
    have hread := numeral?_append hs hrest
    rw [hsign] at hread
    simp only [Raw.value, hskip]
    simp only [List.cons_append, hread, Option.map_some]
  | @noItems gap' hgap' =>
    have hclose : skipSpace (gap' ++ 93 :: rest) = 93 :: rest := skipSpace_gap hgap' (by decide)
    simp only [Raw.value, hskip]
    simp only [List.cons_append, List.append_assoc, List.nil_append, hclose]
  | @array vs gap' s hgap' hs =>
    have hinner : skipSpace (gap' ++ (s ++ rest)) = s ++ rest := skipSpace_written hgap' hs
    have htake : Raw.items fuel (s ++ rest) = some (vs, rest) := by
      refine ih hs .nil hrest ?_
      simp only [List.length_cons, List.length_append] at hfuel
      omega
    simp only [Raw.value, hskip]
    simp only [List.cons_append, List.append_assoc, hinner]
    obtain ⟨b, t, rfl, hb⟩ := hs.head
    split
    · next heq =>
      cases heq
      exact absurd rfl hb.2.2.1
    · rw [htake]
      rfl
  | @noMembers gap' hgap' =>
    have hclose : skipSpace (gap' ++ 125 :: rest) = 125 :: rest := skipSpace_gap hgap' (by decide)
    simp only [Raw.value, hskip]
    simp only [List.cons_append, List.append_assoc, List.nil_append, hclose]
  | @object ms gap' s hgap' hs =>
    have hinner : skipSpace (gap' ++ (s ++ rest)) = s ++ rest := skipSpace_written hgap' hs
    have htake : Raw.members fuel (s ++ rest) = some (ms, rest) := by
      refine ih hs .nil hrest ?_
      simp only [List.length_cons, List.length_append] at hfuel
      omega
    simp only [Raw.value, hskip]
    simp only [List.cons_append, List.append_assoc, hinner]
    obtain ⟨b, t, rfl, hb⟩ := hs.head
    split
    · next heq =>
      cases heq
      exact absurd rfl hb.2.2.2
    · rw [htake]
      rfl

theorem Complete.items {vs : List Raw} {gap text : List UInt8} (ih : Complete fuel)
    (h : Written (.items vs) text) (hgap : Space gap) (hrest : Apart rest)
    (hfuel : 2 * text.length < fuel + 1) :
    Raw.items (fuel + 1) (gap ++ (text ++ rest)) = some (vs, rest) := by
  cases h with
  | @lastItem v s after hv hafter =>
    have hitem : Raw.value fuel (gap ++ (s ++ (after ++ 93 :: rest))) =
        some (v, after ++ 93 :: rest) := by
      refine ih hv hgap (hafter.apart (apart_cons (by decide))) ?_
      simp only [List.length_append, List.length_cons] at hfuel
      omega
    have hclose : skipSpace (after ++ 93 :: rest) = 93 :: rest := skipSpace_gap hafter (by decide)
    simp only [List.append_assoc, List.cons_append, List.nil_append, Raw.items, hitem,
      Option.bind_eq_bind, Option.bind_some, hclose]
    rfl
  | @item v vs s after next more hv hafter hnext hmore =>
    have hitem : Raw.value fuel (gap ++ (s ++ (after ++ 44 :: (next ++ (more ++ rest))))) =
        some (v, after ++ 44 :: (next ++ (more ++ rest))) := by
      refine ih hv hgap (hafter.apart (apart_cons (by decide))) ?_
      simp only [List.length_append, List.length_cons] at hfuel
      omega
    have hcomma : skipSpace (after ++ 44 :: (next ++ (more ++ rest))) =
        44 :: (next ++ (more ++ rest)) := skipSpace_gap hafter (by decide)
    have htake : Raw.items fuel (next ++ (more ++ rest)) = some (vs, rest) := by
      refine ih hmore hnext hrest ?_
      simp only [List.length_append, List.length_cons] at hfuel
      omega
    simp only [List.append_assoc, List.cons_append, Raw.items, hitem,
      Option.bind_eq_bind, Option.bind_some, hcomma, htake]
    rfl

/-- Behind a key and its value the object is closed or goes on. -/
theorem members_of_key {k : Option String} {v : Raw} {key r t : List UInt8} (hkey : Key k key)
    (hskip : skipSpace s = key ++ r) (hvalue : value fuel r = some (v, t)) :
    (∀ u, skipSpace t = 125 :: u → members (fuel + 1) s = some ([(k, v)], u)) ∧
    ∀ u ms w, skipSpace t = 44 :: u → members fuel u = some (ms, w) →
      members (fuel + 1) s = some ((k, v) :: ms, w) := by
  obtain ⟨hs, hgap⟩ := hkey
  have hcolon : ∀ u, skipSpace (_ ++ 58 :: u) = 58 :: u := fun u => skipSpace_gap hgap (by decide)
  constructor
  · intro u hclose
    simp only [members, hskip]
    simp only [List.append_assoc, List.cons_append, List.nil_append, pieces_of_spells hs,
      Option.bind_eq_bind, Option.bind_some, hcolon, hvalue, hclose]
    rfl
  · intro u ms w hcomma hmore
    simp only [members, hskip]
    simp only [List.append_assoc, List.cons_append, List.nil_append, pieces_of_spells hs,
      Option.bind_eq_bind, Option.bind_some, hcolon, hvalue, hcomma, hmore]
    rfl

theorem Complete.members {ms : List (Option String × Raw)} {gap text : List UInt8}
    (ih : Complete fuel) (h : Written (.members ms) text) (hgap : Space gap) (hrest : Apart rest)
    (hfuel : 2 * text.length < fuel + 1) :
    Raw.members (fuel + 1) (gap ++ (text ++ rest)) = some (ms, rest) := by
  have hskip : skipSpace (gap ++ (text ++ rest)) = text ++ rest := skipSpace_written hgap h
  cases h with
  | @lastMember k v key inner s after hkey hinner hv hafter =>
    rw [List.append_assoc] at hskip ⊢
    have hvalue : Raw.value fuel (inner ++ (s ++ (after ++ [125])) ++ rest) =
        some (v, after ++ 125 :: rest) := by
      have hapart : Apart (after ++ 125 :: rest) := hafter.apart (apart_cons (by decide))
      simp only [List.length_append, List.length_cons] at hfuel
      simp only [List.append_assoc, List.cons_append, List.nil_append]
      exact ih hv hinner hapart (by omega)
    exact (members_of_key hkey hskip hvalue).1 rest (skipSpace_gap hafter (by decide))
  | @member k v ms key inner s after next more hkey hinner hv hafter hnext hmore =>
    rw [List.append_assoc] at hskip ⊢
    simp only [List.length_append, List.length_cons] at hfuel
    have hvalue : Raw.value fuel (inner ++ (s ++ (after ++ 44 :: (next ++ more))) ++ rest) =
        some (v, after ++ 44 :: (next ++ (more ++ rest))) := by
      have hapart : Apart (after ++ 44 :: (next ++ (more ++ rest))) :=
        hafter.apart (apart_cons (by decide))
      simp only [List.append_assoc, List.cons_append]
      exact ih hv hinner hapart (by omega)
    exact (members_of_key hkey hskip hvalue).2 _ ms rest (skipSpace_gap hafter (by decide))
      (ih hmore hnext hrest (by omega))

/-- However long a phrase is, the reader takes it if it may go far enough. -/
theorem complete (fuel : Nat) : Complete fuel := by
  induction fuel with
  | zero =>
    intro p text gap rest h hgap hrest hfuel
    exact absurd hfuel (Nat.not_lt_zero _)
  | succ fuel ih =>
    intro p text gap rest h hgap hrest hfuel
    cases p with
    | value v => exact ih.value h hgap hrest hfuel
    | items vs => exact ih.items h hgap hrest hfuel
    | members ms => exact ih.members h hgap hrest hfuel

/-- The reader accepts the texts of a value, and reads this value from them. -/
theorem read?_eq_some_iff {v : Raw} {bytes : List UInt8} :
    read? bytes = some v ↔ TextOf v bytes := by
  simp only [read?, Option.bind_eq_bind, Option.bind_eq_some_iff]
  constructor
  · rintro ⟨⟨w, rest⟩, hread, h⟩
    dsimp only at h
    split at h
    · next hrest =>
      cases h
      obtain ⟨gap, text, hgap, htext, hbytes⟩ := sound _ (p := .value v) hread
      exact ⟨gap, text, rest, hgap, htext, skipSpace_eq_nil_iff.1 hrest, hbytes⟩
    · cases h
  · rintro ⟨gap, text, after, hgap, htext, hafter, rfl⟩
    have hapart : Apart after := List.append_nil after ▸ hafter.apart nofun
    have hfuel : 2 * text.length < 2 * (gap ++ (text ++ after)).length + 2 := by
      simp only [List.length_append]
      omega
    refine ⟨(v, after), complete _ htext hgap hapart hfuel, ?_⟩
    dsimp only
    rw [if_pos (skipSpace_eq_nil_iff.2 hafter)]

/-- No text is a text of two values. -/
theorem TextOf.unique {v w : Raw} {bytes : List UInt8} (hv : TextOf v bytes)
    (hw : TextOf w bytes) : v = w :=
  Option.some.inj ((read?_eq_some_iff.2 hv).symm.trans (read?_eq_some_iff.2 hw))

end TokenConsole.Json.Raw
