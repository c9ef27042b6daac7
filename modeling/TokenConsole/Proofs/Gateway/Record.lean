import TokenConsole.Gateway.Listing
import TokenConsole.Proofs.Except
import TokenConsole.Proofs.Gateway.Amounts

/-!
# The columns of a mapping on the wire

A mapping is sent as an object or as an array. Either way it has seven columns, each of which is
read by itself, and a column that is left out counts as null. A lifetime or a timestamp that has
the form of one never stops the reading, whatever it says.
-/
namespace TokenConsole.Gateway.Record

/-- What is sent for a mapping. -/
inductive Column where
  | id
  | cipherText
  | wrappedKey
  | ttl
  | createdAt
  | deterministic
  | reversible
  deriving DecidableEq

/-- The key of a column in an object. -/
def Column.key : Column → String
  | .id => "id"
  | .cipherText => "cipher_text"
  | .wrappedKey => "dek_wrapped"
  | .ttl => "token_ttl"
  | .createdAt => "created_at"
  | .deterministic => "deterministic"
  | .reversible => "reversible"

/-- The place of a column in an array. -/
def Column.index : Column → Nat
  | .id => 0
  | .cipherText => 1
  | .wrappedKey => 2
  | .ttl => 3
  | .createdAt => 4
  | .deterministic => 5
  | .reversible => 6

/-- What an item holds in a column. -/
def cell : Json → Column → Json
  | .object ms, c => field ms c.key
  | .array vs, c => vs[c.index]?.getD .null
  | _, _ => .null

/-- The item without what it holds in a column. -/
def blank (c : Column) : Json → Json
  | .object ms => .object (ms.map fun m => (m.1, if m.1 = c.key then .null else m.2))
  | .array vs => .array (vs.set c.index .null)
  | v => v

/-- An object, or an array that has a first column and none beyond the last. -/
inductive IsRow : Json → Prop where
  | object (ms : List (String × Json)) : IsRow (.object ms)
  | array {vs : List Json} (hfirst : vs ≠ []) (hlast : vs.length ≤ 7) : IsRow (.array vs)

/-- The item holds the record: its columns hold the fields, of which each may be null. -/
structure Reads (item : Json) (r : Record) : Prop where
  row : IsRow item
  id : Nullable (fun v s => v = .string s) (cell item .id) r.id
  cipherText : Nullable (fun v s => v = .string s) (cell item .cipherText) r.cipherText
  wrappedKey : Nullable (fun v s => v = .string s) (cell item .wrappedKey) r.wrappedKey
  ttl : Nullable Ttl.Reads (cell item .ttl) r.ttl
  createdAt : Nullable Timestamp.Reads (cell item .createdAt) r.createdAt
  deterministic : Nullable (fun v b => v = .bool b) (cell item .deterministic) r.deterministic
  reversible : Nullable (fun v b => v = .bool b) (cell item .reversible) r.reversible

/-! ### Cells -/

theorem text_eq_ok_iff {v : Json} {s : Option String} :
    text v = .ok s ↔ Nullable (fun v s => v = .string s) v s := by
  constructor
  · intro h
    unfold text at h
    split at h
    · cases h
      exact .null
    · cases h
      exact .value rfl
    · cases h
  · rintro (- | rfl)
    · rfl
    · rfl

theorem flag_eq_ok_iff {v : Json} {b : Option Bool} :
    flag v = .ok b ↔ Nullable (fun v b => v = .bool b) v b := by
  constructor
  · intro h
    unfold flag at h
    split at h
    · cases h
      exact .null
    · cases h
      exact .value rfl
    · cases h
  · rintro (- | rfl)
    · rfl
    · rfl

theorem ttlField_eq_ok_iff {v : Json} {t : Option Ttl} :
    ttlField v = .ok t ↔ Nullable Ttl.Reads v t := by
  constructor
  · intro h
    unfold ttlField at h
    split at h
    · cases h
      exact .null
    · split at h
      · next t ht =>
        cases h
        exact .value (Ttl.ofJson?_eq_some_iff.1 ht)
      · cases h
  · rintro (- | h)
    · rfl
    · have hread := Ttl.ofJson?_eq_some_iff.2 h
      unfold ttlField
      split
      · cases hread
      · rw [hread]

theorem timestampField_eq_ok_iff {v : Json} {t : Option Timestamp} :
    timestampField v = .ok t ↔ Nullable Timestamp.Reads v t := by
  constructor
  · intro h
    unfold timestampField at h
    split at h
    · cases h
      exact .null
    · split at h
      · next t ht =>
        cases h
        exact .value (Timestamp.ofJson?_eq_some_iff.1 ht)
      · cases h
  · rintro (- | h)
    · rfl
    · have hread := Timestamp.ofJson?_eq_some_iff.2 h
      unfold timestampField
      split
      · cases hread
      · rw [hread]

/-! ### Rows -/

theorem ofMembers_eq_ok_iff {ms : List (String × Json)} {r : Record} :
    ofMembers ms = .ok r ↔ Reads (.object ms) r := by
  simp only [ofMembers, bind_eq_ok_iff, text_eq_ok_iff, flag_eq_ok_iff, ttlField_eq_ok_iff,
    timestampField_eq_ok_iff]
  constructor
  · rintro ⟨_, hcipher, _, hcreated, _, hwrapped, _, hdeterministic, _, hid, _, hreversible, _,
      httl, ⟨⟩⟩
    exact ⟨.object ms, hid, hcipher, hwrapped, httl, hcreated, hdeterministic, hreversible⟩
  · rintro ⟨-, hid, hcipher, hwrapped, httl, hcreated, hdeterministic, hreversible⟩
    exact ⟨_, hcipher, _, hcreated, _, hwrapped, _, hdeterministic, _, hid, _, hreversible, _, httl,
      rfl⟩

theorem ofItems_eq_ok_iff {vs : List Json} {r : Record} :
    ofItems vs = .ok r ↔ Reads (.array vs) r := by
  by_cases hfirst : vs = []
  · subst hfirst
    refine ⟨nofun, fun h => ?_⟩
    cases h.row with
    | array hfirst => exact absurd rfl hfirst
  · unfold ofItems
    rw [if_neg hfirst]
    simp only [bind_eq_ok_iff, text_eq_ok_iff, flag_eq_ok_iff, ttlField_eq_ok_iff,
      timestampField_eq_ok_iff]
    constructor
    · rintro ⟨_, hid, _, hcipher, _, hwrapped, _, httl, _, hcreated, _, hdeterministic, _,
        hreversible, h⟩
      split at h
      · cases h
      · next hlast =>
        cases h
        exact ⟨.array hfirst (Nat.le_of_not_lt hlast), hid, hcipher, hwrapped, httl, hcreated,
          hdeterministic, hreversible⟩
    · rintro ⟨hrow, hid, hcipher, hwrapped, httl, hcreated, hdeterministic, hreversible⟩
      cases hrow with
      | array _ hlast =>
        refine ⟨_, hid, _, hcipher, _, hwrapped, _, httl, _, hcreated, _, hdeterministic, _,
          hreversible, ?_⟩
        rw [if_neg (Nat.not_lt_of_le hlast)]
        rfl

/-- A record is read exactly from the items that hold it. -/
theorem ofJson_eq_ok_iff {item : Json} {r : Record} : ofJson item = .ok r ↔ Reads item r := by
  cases item with
  | object ms => exact ofMembers_eq_ok_iff
  | array vs => exact ofItems_eq_ok_iff
  | null => exact ⟨nofun, fun h => nomatch h.row⟩
  | bool b => exact ⟨nofun, fun h => nomatch h.row⟩
  | number n => exact ⟨nofun, fun h => nomatch h.row⟩
  | string s => exact ⟨nofun, fun h => nomatch h.row⟩

/-! ### Blanks -/

theorem field_blank (ms : List (String × Json)) (key key' : String) :
    field (ms.map fun m => (m.1, if m.1 = key then .null else m.2)) key' =
      if key' = key then .null else field ms key' := by
  unfold field Dictionary.get?
  induction ms with
  | nil => exact (ite_self _).symm
  | cons m rest ih =>
    obtain ⟨k, v⟩ := m
    rw [List.map_cons]
    by_cases hk : key' = k
    · subst hk
      rw [List.lookup_cons_self, List.lookup_cons_self]
      rfl
    · have hbeq : (key' == k) = false := beq_eq_false_iff_ne.2 hk
      rw [List.lookup_cons, List.lookup_cons, hbeq]
      exact ih

theorem cell_blank (c c' : Column) (item : Json) :
    cell (blank c item) c' = if c' = c then .null else cell item c' := by
  cases item with
  | object ms =>
    have hkey : c'.key = c.key ↔ c' = c := by cases c <;> cases c' <;> decide
    simp only [cell, blank, field_blank, hkey]
  | array vs =>
    have hindex : c.index = c'.index ↔ c' = c := by cases c <;> cases c' <;> decide
    simp only [cell, blank, List.getElem?_set, hindex]
    split
    · split <;> rfl
    · rfl
  | null => exact (ite_self _).symm
  | bool b => exact (ite_self _).symm
  | number n => exact (ite_self _).symm
  | string s => exact (ite_self _).symm

variable {item item' : Json} {f : Option Ttl → Option Ttl} {g : Option Timestamp → Option Timestamp}

/-- Two items of one shape that differ in their lifetimes and timestamps only. -/
structure Differ (item item' : Json) (f : Option Ttl → Option Ttl)
    (g : Option Timestamp → Option Timestamp) : Prop where
  ttl : ttlField (cell item .ttl) = (ttlField (cell item' .ttl)).map f
  createdAt : timestampField (cell item .createdAt) = (timestampField (cell item' .createdAt)).map g
  rest : ∀ c, c ≠ .ttl → c ≠ .createdAt → cell item c = cell item' c

theorem Differ.ofMembers {ms ms' : List (String × Json)}
    (h : Differ (.object ms) (.object ms') f g) : ofMembers ms = (ofMembers ms').map fun r =>
      { r with ttl := f r.ttl, createdAt := g r.createdAt } := by
  refine bind_eq_map_bind_of_eq (congrArg text (h.rest .cipherText nofun nofun)) fun _ => ?_
  refine bind_eq_map_bind h.createdAt fun _ => ?_
  refine bind_eq_map_bind_of_eq (congrArg text (h.rest .wrappedKey nofun nofun)) fun _ => ?_
  refine bind_eq_map_bind_of_eq (congrArg flag (h.rest .deterministic nofun nofun)) fun _ => ?_
  refine bind_eq_map_bind_of_eq (congrArg text (h.rest .id nofun nofun)) fun _ => ?_
  refine bind_eq_map_bind_of_eq (congrArg flag (h.rest .reversible nofun nofun)) fun _ => ?_
  exact bind_eq_map_bind h.ttl fun _ => rfl

theorem Differ.ofItems {vs vs' : List Json} (hlength : vs.length = vs'.length)
    (h : Differ (.array vs) (.array vs') f g) : ofItems vs = (ofItems vs').map fun r =>
      { r with ttl := f r.ttl, createdAt := g r.createdAt } := by
  have hnil : vs = [] ↔ vs' = [] := by
    rw [← List.length_eq_zero_iff, hlength, List.length_eq_zero_iff]
  by_cases hfirst : vs' = []
  · rw [hfirst, hnil.2 hfirst]
    rfl
  · unfold Record.ofItems
    rw [if_neg hfirst, if_neg (mt hnil.1 hfirst), hlength]
    refine bind_eq_map_bind_of_eq (congrArg text (h.rest .id nofun nofun)) fun _ => ?_
    refine bind_eq_map_bind_of_eq (congrArg text (h.rest .cipherText nofun nofun)) fun _ => ?_
    refine bind_eq_map_bind_of_eq (congrArg text (h.rest .wrappedKey nofun nofun)) fun _ => ?_
    refine bind_eq_map_bind h.ttl fun _ => ?_
    refine bind_eq_map_bind h.createdAt fun _ => ?_
    refine bind_eq_map_bind_of_eq (congrArg flag (h.rest .deterministic nofun nofun)) fun _ => ?_
    refine bind_eq_map_bind_of_eq (congrArg flag (h.rest .reversible nofun nofun)) fun _ => ?_
    split
    · rfl
    · rfl

theorem Differ.ofJson_blank {c : Column} (h : Differ item (blank c item) f g) :
    ofJson item = (ofJson (blank c item)).map fun r =>
      { r with ttl := f r.ttl, createdAt := g r.createdAt } := by
  cases item with
  | object ms => exact h.ofMembers
  | array vs => exact h.ofItems List.length_set.symm
  | null => rfl
  | bool b => rfl
  | number n => rfl
  | string s => rfl

/-- A lifetime that is read goes into the record and does nothing else. -/
theorem ofJson_of_ttl {t : Option Ttl} (h : Nullable Ttl.Reads (cell item .ttl) t) :
    ofJson item = (ofJson (blank .ttl item)).map fun r => { r with ttl := t } := by
  have hdiffer : Differ item (blank .ttl item) (fun _ => t) fun u => u := by
    refine ⟨?_, ?_, fun c hc _ => ?_⟩
    · rw [ttlField_eq_ok_iff.2 h, cell_blank, if_pos rfl]
      rfl
    · rw [cell_blank, if_neg nofun, map_self]
    · rw [cell_blank, if_neg hc]
  exact hdiffer.ofJson_blank

/-- So does a timestamp. -/
theorem ofJson_of_createdAt {t : Option Timestamp}
    (h : Nullable Timestamp.Reads (cell item .createdAt) t) :
    ofJson item = (ofJson (blank .createdAt item)).map fun r => { r with createdAt := t } := by
  have hdiffer : Differ item (blank .createdAt item) (fun u => u) fun _ => t := by
    refine ⟨?_, ?_, fun c _ hc => ?_⟩
    · rw [cell_blank, if_neg nofun, map_self]
    · rw [timestampField_eq_ok_iff.2 h, cell_blank, if_pos rfl]
      rfl
    · rw [cell_blank, if_neg hc]
  exact hdiffer.ofJson_blank

end TokenConsole.Gateway.Record
