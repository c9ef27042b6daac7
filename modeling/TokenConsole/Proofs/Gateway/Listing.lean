import Mathlib.Data.List.Forall2
import TokenConsole.Proofs.Gateway.Record

/-!
# The list is read as a whole

A list of mappings is read if each of its items is a record with an id, and then every item gives
its own mapping. The first item that is none decides the error. A lifetime or a timestamp that says
nothing costs no more than its own cell.
-/
namespace TokenConsole.Gateway

open Record (cell blank)

/-! ### Records -/

namespace Record

/-- The item is a record that has an id. -/
def HasId (item : Json) : Prop := ∃ r id, Reads item r ∧ r.id = some id ∧ id ≠ ""

/-- The item is a record that the mapping is made of. -/
def Describes (item : Json) (m : Mapping) : Prop := ∃ r, Reads item r ∧ r.mapping? = some m

theorem mapping?_eq_some_iff {r : Record} {m : Mapping} : r.mapping? = some m ↔
    r.id = some m.id ∧ m.id ≠ "" ∧ m.cipherText = r.cipherText.getD "" ∧
      m.wrappedKey = r.wrappedKey.getD "" ∧ m.ttl = (r.ttl.map Ttl.human).getD "" ∧
      m.createdAt = r.createdAt.bind Timestamp.moment? ∧ m.deterministic = r.deterministic ∧
      m.reversible = r.reversible := by
  constructor
  · intro h
    unfold mapping? at h
    split at h
    · cases h
    · next id hid =>
      split at h
      · cases h
      · next hne =>
        cases h
        exact ⟨hid, hne, rfl, rfl, rfl, rfl, rfl, rfl⟩
  · rintro ⟨hid, hne, hcipher, hwrapped, httl, hcreated, hdeterministic, hreversible⟩
    unfold mapping?
    rw [hid]
    dsimp only
    rw [if_neg hne, ← hcipher, ← hwrapped, ← httl, ← hcreated, ← hdeterministic, ← hreversible]

theorem hasId_iff {item : Json} : HasId item ↔ ∃ m, Describes item m := by
  constructor
  · rintro ⟨r, id, hr, hid, hne⟩
    exact ⟨⟨id, _, _, _, _, _, _⟩, r, hr,
      mapping?_eq_some_iff.2 ⟨hid, hne, rfl, rfl, rfl, rfl, rfl, rfl⟩⟩
  · rintro ⟨m, r, hr, hm⟩
    obtain ⟨hid, hne, -⟩ := mapping?_eq_some_iff.1 hm
    exact ⟨r, m.id, hr, hid, hne⟩

theorem mapping?_ttl (r : Record) (t : Option Ttl) : { r with ttl := t }.mapping? =
    r.mapping?.map fun m => { m with ttl := (t.map Ttl.human).getD "" } := by
  unfold mapping?
  dsimp only
  split
  · rfl
  · split <;> rfl

theorem mapping?_createdAt (r : Record) (t : Option Timestamp) :
    { r with createdAt := t }.mapping? =
      r.mapping?.map fun m => { m with createdAt := t.bind Timestamp.moment? } := by
  unfold mapping?
  dsimp only
  split
  · rfl
  · split <;> rfl

end Record

namespace Mapping

open Record (HasId Describes)

/-! ### Items -/

variable {item item' : Json}

theorem ofJson_eq_ok_iff {m : Mapping} : ofJson item = .ok m ↔ Describes item m := by
  constructor
  · intro h
    unfold ofJson at h
    split at h
    · cases h
    · next r hr =>
      split at h
      · next m' hm =>
        cases h
        exact ⟨r, Record.ofJson_eq_ok_iff.1 hr, hm⟩
      · cases h
  · rintro ⟨r, hr, hm⟩
    unfold ofJson
    rw [Record.ofJson_eq_ok_iff.2 hr]
    dsimp only
    rw [hm]

theorem ofJson_error {e : Error} (h : ofJson item = .error e) :
    ∃ text, e = .unexpectedShape text := by
  unfold ofJson at h
  split at h
  · cases h
    exact ⟨_, rfl⟩
  · split at h
    · cases h
    · cases h
      exact ⟨_, rfl⟩

/-- What changes a record without touching its id changes the mapping. -/
theorem ofJson_eq_map {f : Record → Record} {g : Mapping → Mapping}
    (hread : Record.ofJson item = (Record.ofJson item').map f)
    (hmapping : ∀ r, (f r).mapping? = r.mapping?.map g) :
    ofJson item = (ofJson item').map g := by
  unfold ofJson
  rw [hread]
  cases Record.ofJson item' with
  | error fault => rfl
  | ok r =>
    dsimp only [Except.map]
    rw [hmapping]
    cases r.mapping? with
    | none => rfl
    | some m => rfl

theorem ofJson_of_ttl {t : Option Ttl} (h : Nullable Ttl.Reads (cell item .ttl) t) :
    ofJson item =
      (ofJson (blank .ttl item)).map fun m => { m with ttl := (t.map Ttl.human).getD "" } :=
  ofJson_eq_map (Record.ofJson_of_ttl h) fun r => r.mapping?_ttl t

theorem ofJson_of_createdAt {t : Option Timestamp}
    (h : Nullable Timestamp.Reads (cell item .createdAt) t) :
    ofJson item = (ofJson (blank .createdAt item)).map fun m =>
      { m with createdAt := t.bind Timestamp.moment? } :=
  ofJson_eq_map (Record.ofJson_of_createdAt h) fun r => r.mapping?_createdAt t

/-! ### Lists -/

theorem listOfItems_eq_ok_iff {items : List Json} {ms : List Mapping} :
    listOfItems items = .ok ms ↔ List.Forall₂ Describes items ms := by
  induction items generalizing ms with
  | nil =>
    rw [List.forall₂_nil_left_iff]
    exact ⟨fun h => by cases h; rfl, fun h => by rw [h]; rfl⟩
  | cons v rest ih =>
    rw [List.forall₂_cons_left_iff, listOfItems]
    constructor
    · intro h
      split at h
      · cases h
      · next m hm =>
        obtain ⟨ms', hrest, rfl⟩ := map_eq_ok_iff.1 h
        exact ⟨m, ms', ofJson_eq_ok_iff.1 hm, ih.1 hrest, rfl⟩
    · rintro ⟨m, ms', hm, hrest, rfl⟩
      rw [ofJson_eq_ok_iff.2 hm]
      exact map_eq_ok_iff.2 ⟨ms', ih.2 hrest, rfl⟩

theorem listOfItems_error {items : List Json} {e : Error} (h : listOfItems items = .error e) :
    ∃ text, e = .unexpectedShape text := by
  induction items with
  | nil => cases h
  | cons v rest ih =>
    rw [listOfItems] at h
    split at h
    · next e' he =>
      cases h
      exact ofJson_error he
    · cases hrest : listOfItems rest with
      | error e' =>
        rw [hrest] at h
        cases h
        exact ih hrest
      | ok ms =>
        rw [hrest] at h
        cases h

/-- Nothing is read behind the first item that gives no mapping. -/
theorem listOfItems_of_first {before rest : List Json} (hbefore : ∀ b ∈ before, HasId b)
    {e : Error} (h : ofJson item = .error e) : listOfItems (before ++ item :: rest) = .error e := by
  induction before with
  | nil => rw [List.nil_append, listOfItems, h]
  | cons b before ih =>
    obtain ⟨m, hm⟩ := Record.hasId_iff.1 (hbefore b List.mem_cons_self)
    rw [List.cons_append, listOfItems, ofJson_eq_ok_iff.2 hm]
    dsimp only
    rw [ih fun b' hb => hbefore b' (List.mem_cons_of_mem b hb)]
    rfl

/-- What changes the mapping of one item changes the list in its place only. -/
theorem listOfItems_replace {f : Mapping → Mapping} (h : ofJson item = (ofJson item').map f)
    (before rest : List Json) : listOfItems (before ++ item :: rest) =
      (listOfItems (before ++ item' :: rest)).map fun ms => ms.modify before.length f := by
  induction before with
  | nil =>
    rw [List.nil_append, List.nil_append, listOfItems, listOfItems, h]
    cases ofJson item' with
    | error e => rfl
    | ok m =>
      dsimp only [Except.map]
      cases listOfItems rest <;> rfl
  | cons b before ih =>
    rw [List.cons_append, List.cons_append, listOfItems, listOfItems, ih]
    cases ofJson b with
    | error e => rfl
    | ok m =>
      dsimp only
      cases listOfItems (before ++ item' :: rest) <;> rfl

theorem listOfJson_eq_ok_iff {v : Json} {ms : List Mapping} : listOfJson v = .ok ms ↔
    v = .null ∧ ms = [] ∨ ∃ items, v = .array items ∧ List.Forall₂ Describes items ms := by
  cases v with
  | null => simp [listOfJson, eq_comm]
  | array items => simp [listOfJson, listOfItems_eq_ok_iff]
  | bool b => simp [listOfJson]
  | number n => simp [listOfJson]
  | string s => simp [listOfJson]
  | object ms => simp [listOfJson]

theorem listOfJson_error {v : Json} {e : Error} (h : listOfJson v = .error e) :
    ∃ text, e = .unexpectedShape text := by
  unfold listOfJson at h
  split at h
  · cases h
  · exact listOfItems_error h
  · cases h
    exact ⟨_, rfl⟩

/-- The list reads if every item has an id. -/
theorem exists_describes_iff {items : List Json} :
    (∃ ms, List.Forall₂ Describes items ms) ↔ ∀ item ∈ items, HasId item := by
  induction items with
  | nil => exact ⟨fun _ => nofun, fun _ => ⟨[], .nil⟩⟩
  | cons v rest ih =>
    rw [List.forall_mem_cons, Record.hasId_iff, ← ih]
    constructor
    · rintro ⟨_, hcons⟩
      obtain ⟨m, ms, hm, hms, rfl⟩ := List.forall₂_cons_left_iff.1 hcons
      exact ⟨⟨m, hm⟩, ms, hms⟩
    · rintro ⟨⟨m, hm⟩, ms, hms⟩
      exact ⟨m :: ms, .cons hm hms⟩

theorem id_ne_of_describes {items : List Json} {ms : List Mapping}
    (h : List.Forall₂ Describes items ms) : ∀ m ∈ ms, m.id ≠ "" := by
  induction h with
  | nil => exact nofun
  | cons hm hrest ih =>
    obtain ⟨r, -, hmapping⟩ := hm
    exact List.forall_mem_cons.2 ⟨(Record.mapping?_eq_some_iff.1 hmapping).2.1, ih⟩

/-- A list that reads like one whose items all have an id is read. -/
theorem listOfJson_of_hasId {v : Json} {items : List Json} {f : List Mapping → List Mapping}
    (h : listOfJson v = (listOfJson (.array items)).map f) (hall : ∀ w ∈ items, HasId w) :
    ∃ ms, listOfJson v = .ok ms := by
  obtain ⟨ms, hms⟩ := exists_describes_iff.2 hall
  have hitems : listOfJson (.array items) = .ok ms := listOfItems_eq_ok_iff.2 hms
  rw [h, hitems]
  exact ⟨f ms, rfl⟩

theorem listOfJson_singleton {item : Json} {m : Mapping} :
    listOfJson (.array [item]) = .ok [m] ↔ Describes item m := by
  rw [listOfJson, listOfItems_eq_ok_iff, List.forall₂_cons]
  exact and_iff_left .nil

/-- An error that an item brings up after items that are fine is that of the item alone. -/
theorem listOfJson_of_first {before : List Json} (hbefore : ∀ b ∈ before, HasId b)
    (hitem : ¬HasId item) (rest : List Json) :
    listOfJson (.array (before ++ item :: rest)) = listOfJson (.array [item]) := by
  cases h : ofJson item with
  | ok m => exact absurd (Record.hasId_iff.2 ⟨m, ofJson_eq_ok_iff.1 h⟩) hitem
  | error e =>
    have halone : listOfItems [item] = .error e := listOfItems_of_first (List.forall_mem_nil _) h
    rw [listOfJson, listOfJson, listOfItems_of_first hbefore h, halone]

/-- A lifetime that is read reaches its own cell and no other. -/
theorem listOfJson_of_ttl {t : Option Ttl} (h : Nullable Ttl.Reads (cell item .ttl) t)
    (before rest : List Json) : listOfJson (.array (before ++ item :: rest)) =
      (listOfJson (.array (before ++ blank .ttl item :: rest))).map fun ms =>
        ms.modify before.length fun m => { m with ttl := (t.map Ttl.human).getD "" } :=
  listOfItems_replace (ofJson_of_ttl h) before rest

theorem listOfJson_of_createdAt {t : Option Timestamp}
    (h : Nullable Timestamp.Reads (cell item .createdAt) t) (before rest : List Json) :
    listOfJson (.array (before ++ item :: rest)) =
      (listOfJson (.array (before ++ blank .createdAt item :: rest))).map fun ms =>
        ms.modify before.length fun m => { m with createdAt := t.bind Timestamp.moment? } :=
  listOfItems_replace (ofJson_of_createdAt h) before rest

/-! ### All or nothing -/

/-- A list is read exactly if it is null or an array of records that have an id. Each item then
gives its mapping, which is the one it gives alone, and in the same order. All that can go wrong is
the shape, and what is said about it is what would be said about the first item that has no id, if
this were all. A lifetime that cannot be parsed leaves its cell empty, and so does a timestamp that
is no date; the list reads on as it does with null in this cell. -/
theorem list_all_or_nothing :
    (∀ v, (∃ ms, listOfJson v = .ok ms) ↔
      v = .null ∨ ∃ items, v = .array items ∧ ∀ item ∈ items, HasId item) ∧
    (∀ v ms, listOfJson v = .ok ms → (∀ m ∈ ms, m.id ≠ "") ∧
      (v = .null ∧ ms = [] ∨ ∃ items, v = .array items ∧ List.Forall₂ Describes items ms)) ∧
    (∀ item m, Describes item m ↔ listOfJson (.array [item]) = .ok [m]) ∧
    (∀ v e, listOfJson v = .error e → ∃ text, e = .unexpectedShape text) ∧
    (∀ before item rest, (∀ b ∈ before, HasId b) → ¬HasId item →
      listOfJson (.array (before ++ item :: rest)) = listOfJson (.array [item])) ∧
    (∀ before item rest t, Ttl.Reads (cell item .ttl) t → t.Unparsable →
      listOfJson (.array (before ++ item :: rest)) =
        (listOfJson (.array (before ++ blank .ttl item :: rest))).map fun ms =>
          ms.modify before.length fun m => { m with ttl := "" }) ∧
    (∀ before item rest t, Timestamp.Reads (cell item .createdAt) t → t.Undated →
      listOfJson (.array (before ++ item :: rest)) =
        (listOfJson (.array (before ++ blank .createdAt item :: rest))).map fun ms =>
          ms.modify before.length fun m => { m with createdAt := none }) := by
  refine ⟨fun v => ?_, fun v ms h => ?_, fun item m => listOfJson_singleton.symm,
    fun v e => listOfJson_error, fun before item rest hbefore hitem =>
    listOfJson_of_first hbefore hitem rest, fun before item rest t ht hnone => ?_,
    fun before item rest t ht hnone => ?_⟩
  · simp only [listOfJson_eq_ok_iff, ← exists_describes_iff]
    constructor
    · rintro ⟨ms, ⟨hv, -⟩ | ⟨items, hv, hitems⟩⟩
      · exact .inl hv
      · exact .inr ⟨items, hv, ms, hitems⟩
    · rintro (hv | ⟨items, hv, ms, hitems⟩)
      · exact ⟨[], .inl ⟨hv, rfl⟩⟩
      · exact ⟨ms, .inr ⟨items, hv, hitems⟩⟩
  · have hread := listOfJson_eq_ok_iff.1 h
    refine ⟨?_, hread⟩
    rcases hread with ⟨-, rfl⟩ | ⟨items, -, hitems⟩
    · exact nofun
    · exact id_ne_of_describes hitems
  · rw [listOfJson_of_ttl (.value ht), Option.map_some, hnone.human, Option.getD_some]
  · rw [listOfJson_of_createdAt (.value ht), Option.bind_some, hnone.moment?]

/-- An item whose lifetime and timestamp are no numbers. -/
def garbledItem : Json :=
  .object [("created_at", .object [("seconds", .string "garbage")]), ("id", .string "c"),
    ("token_ttl", .array [.string "soon"])]

/-- The garbled item is read, and an item after it that has no id is what the list fails at. -/
theorem list_of_garbled :
    listOfJson (.array [garbledItem]) = .ok [⟨"c", "", "", "", none, none, none⟩] ∧
    listOfJson (.array [garbledItem, .object [], .null]) = listOfJson (.array [.object []]) := by
  obtain ⟨hreads, -, -, -, hfirst, httl, -⟩ := list_all_or_nothing
  have hcell : Ttl.Reads (cell garbledItem .ttl) (.duration ⟨some (.text "soon"), none⟩) :=
    .duration ⟨_, _, .array (by decide), .value (.text "soon"), .null⟩
  have hgarbled : (Ttl.duration ⟨some (.text "soon"), none⟩).Unparsable :=
    .duration ⟨.inl rfl, by decide⟩
  have hread : listOfJson (.array [garbledItem]) =
      .ok [⟨"c", "", "", "", none, none, none⟩] := by
    have hlist := httl [] garbledItem [] _ hcell hgarbled
    rw [List.nil_append, List.nil_append] at hlist
    rw [hlist]
    decide +kernel
  have hno : ∀ ms, listOfJson (.array [.object []]) ≠ .ok ms := nofun
  have hid : ∀ {v : Json}, HasId v ↔ ∃ ms, listOfJson (.array [v]) = .ok ms := by
    intro v
    rw [hreads]
    simp
  refine ⟨hread, hfirst [garbledItem] (.object []) [.null] ?_ fun h => ?_⟩
  · intro b hb
    rw [List.mem_singleton.1 hb]
    exact hid.2 ⟨_, hread⟩
  · obtain ⟨ms, hms⟩ := hid.1 h
    exact hno ms hms

end Mapping

end TokenConsole.Gateway
