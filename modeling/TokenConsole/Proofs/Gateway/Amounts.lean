import TokenConsole.Gateway.Amounts
import TokenConsole.Proofs.Number.Decimal
import TokenConsole.Proofs.Text.Blank

/-!
# What an amount on the wire looks like

Which JSON values are read as counts, as seconds and nanoseconds, as lifetimes and as timestamps,
and the many ways to write one pair of seconds and nanoseconds. However a pair is written, it is
read as this pair.
-/
namespace TokenConsole.Gateway

open TokenConsole.Number (InInt64 int64?)

/-- Null, which says nothing, or a value of a form. -/
inductive Nullable {α : Type} (form : Json → α → Prop) : Json → Option α → Prop where
  | null : Nullable form .null none
  | value {v : Json} {a : α} (h : form v a) : Nullable form v (some a)

/-! ### Counts -/

namespace Count

/-- The value is a count: a whole number of 64 bits, or any text. -/
inductive Reads : Json → Count → Prop where
  | number {n : Int} (h : InInt64 n) : Reads (.number (.whole n)) (.number n)
  | text (s : String) : Reads (.string s) (.text s)

theorem ofJson?_eq_some_iff {v : Json} {c : Count} : ofJson? v = some c ↔ Reads v c := by
  constructor
  · intro h
    unfold ofJson? at h
    split at h
    · next n =>
      obtain ⟨m, hm, rfl⟩ := Option.map_eq_some_iff.1 h
      obtain ⟨hn, rfl⟩ := Number.checkInt64_eq_some_iff.1 hm
      exact .number hn
    · next s =>
      cases h
      exact .text s
    · cases h
  · rintro (hn | s)
    · exact Option.map_eq_some_iff.2 ⟨_, Number.checkInt64_eq_some_iff.2 ⟨hn, rfl⟩, rfl⟩
    · rfl

/-- A count that is left out is read like null. -/
theorem ofField?_eq_some_iff {v : Option Json} {c : Option Count} :
    ofField? v = some c ↔ Nullable Reads (v.getD .null) c := by
  have hvalue : ∀ {w : Json}, w ≠ .null →
      ((ofJson? w).map some = some c ↔ Nullable Reads w c) := by
    intro w hw
    rw [Option.map_eq_some_iff]
    constructor
    · rintro ⟨a, ha, rfl⟩
      exact .value (ofJson?_eq_some_iff.1 ha)
    · rintro (- | h)
      · exact absurd rfl hw
      · exact ⟨_, ofJson?_eq_some_iff.2 h, rfl⟩
  have hnull : some none = some c ↔ Nullable Reads .null c := by
    constructor
    · rintro ⟨⟩
      exact .null
    · rintro (- | ⟨⟨⟩⟩)
      rfl
  unfold ofField?
  split
  · exact hnull
  · exact hnull
  · next w hw => exact hvalue fun he => hw (he ▸ rfl)

/-- The ways to write a number: as a whole number, in decimal with white space around it, and zero
by null. -/
inductive Writes : Int → Json → Prop where
  | number (n : Int) : Writes n (.number (.whole n))
  | text (n : Int) {before after : String} (hbefore : Text.isBlank before = true)
    (hafter : Text.isBlank after = true) : Writes n (.string (before ++ toString n ++ after))
  | zero : Writes 0 .null

theorem value?_text {n : Int} (hn : InInt64 n) {before after : String}
    (hbefore : Text.isBlank before = true) (hafter : Text.isBlank after = true) :
    (Count.text (before ++ toString n ++ after)).value? = some n := by
  have htrim : Text.trimChars (before ++ toString n ++ after).toList = (toString n).toList := by
    rw [String.toList_append, String.toList_append, Text.trimChars_append hbefore hafter]
    exact Text.trimChars_eq_self fun _ hc => Number.isSpace_of_mem_toString hc
  rw [value?, htrim, Number.int64?_toString hn]

/-- However a number is written, it is read as this number. -/
theorem Writes.reads {n : Int} {v : Json} (h : Writes n v) (hn : InInt64 n) :
    ∃ c, Nullable Reads v c ∧ SecondsNanos.part? c = some n := by
  cases h with
  | number => exact ⟨_, .value (.number hn), rfl⟩
  | text _ hbefore hafter => exact ⟨_, .value (.text _), value?_text hn hbefore hafter⟩
  | zero => exact ⟨_, .null, rfl⟩

end Count

/-! ### Seconds and nanoseconds -/

namespace SecondsNanos

/-- What stands in the places of the seconds and of the nanoseconds: under their keys in an object,
which may have other members and orders them freely, or first and second in an array. A place that
is left out counts as null. -/
inductive Places : Json → Json → Json → Prop where
  | object {ms : List (String × Json)} (hseconds : (ms.map (·.1)).count "seconds" ≤ 1)
    (hnanos : (ms.map (·.1)).count "nanos" ≤ 1) :
    Places (.object ms) ((ms.lookup "seconds").getD .null) ((ms.lookup "nanos").getD .null)
  | array {vs : List Json} (hlength : vs.length ≤ 2) :
    Places (.array vs) (vs[0]?.getD .null) (vs[1]?.getD .null)

theorem lookup_eq_head? (ms : List (String × Json)) (key : String) :
    ms.lookup key = (ms.filter (·.1 == key)).head?.map (·.2) := by
  induction ms with
  | nil => rfl
  | cons m rest ih =>
    obtain ⟨k, w⟩ := m
    by_cases hk : k = key
    · subst hk
      rw [List.lookup_cons_self, List.filter_cons_of_pos (by simp)]
      rfl
    · have hk' : (key == k) = false := beq_eq_false_iff_ne.2 fun he => hk he.symm
      rw [List.lookup_cons, hk', List.filter_cons_of_neg (by simpa using hk), ih]

theorem member?_eq_some_iff {ms : List (String × Json)} {key : String} {v : Option Json} :
    member? ms key = some v ↔ (ms.map (·.1)).count key ≤ 1 ∧ ms.lookup key = v := by
  have hcount : (ms.map (·.1)).count key = (ms.filter (·.1 == key)).length := by
    rw [List.count_eq_countP, List.countP_map, List.countP_eq_length_filter]
    rfl
  rw [hcount, lookup_eq_head?, member?]
  generalize ms.filter (·.1 == key) = found
  match found with
  | [] => simp
  | [m] => simp
  | m :: m' :: rest => simp

/-- The value holds seconds and nanoseconds. -/
def Reads (v : Json) (d : SecondsNanos) : Prop :=
  ∃ s n, Places v s n ∧ Nullable Count.Reads s d.seconds ∧ Nullable Count.Reads n d.nanos

/-- Two places that are read one after the other. -/
theorem fields_eq_some_iff {s n : Option (Option Json)} {d : SecondsNanos} :
    ((s.bind Count.ofField?).bind fun a => (n.bind Count.ofField?).bind fun b =>
      some (⟨a, b⟩ : SecondsNanos)) = some d ↔
      ∃ v w, s = some v ∧ n = some w ∧ Nullable Count.Reads (v.getD .null) d.seconds ∧
        Nullable Count.Reads (w.getD .null) d.nanos := by
  simp only [Option.bind_eq_some_iff, Option.some.injEq, Count.ofField?_eq_some_iff]
  constructor
  · rintro ⟨a, ⟨v, hv, ha⟩, b, ⟨w, hw, hb⟩, rfl⟩
    exact ⟨v, w, hv, hw, ha, hb⟩
  · rintro ⟨v, w, hv, hw, ha, hb⟩
    exact ⟨_, ⟨v, hv, ha⟩, _, ⟨w, hw, hb⟩, rfl⟩

theorem ofJson?_eq_some_iff {v : Json} {d : SecondsNanos} : ofJson? v = some d ↔ Reads v d := by
  constructor
  · intro h
    unfold ofJson? at h
    split at h
    · next ms =>
      obtain ⟨a, b, ha, hb, hs, hn⟩ := fields_eq_some_iff.1 h
      obtain ⟨hseconds, rfl⟩ := member?_eq_some_iff.1 ha
      obtain ⟨hnanos, rfl⟩ := member?_eq_some_iff.1 hb
      exact ⟨_, _, .object hseconds hnanos, hs, hn⟩
    · next vs =>
      split at h
      · cases h
      · next hlength =>
        have hfields := fields_eq_some_iff (s := some vs[0]?) (n := some vs[1]?) (d := d)
        obtain ⟨a, b, ⟨⟩, ⟨⟩, hs, hn⟩ := hfields.1 h
        exact ⟨_, _, .array (Nat.le_of_not_lt hlength), hs, hn⟩
    · cases h
  · rintro ⟨_, _, hplaces, hs, hn⟩
    cases hplaces with
    | object hseconds hnanos =>
      exact fields_eq_some_iff.2 ⟨_, _, member?_eq_some_iff.2 ⟨hseconds, rfl⟩,
        member?_eq_some_iff.2 ⟨hnanos, rfl⟩, hs, hn⟩
    | @array vs hlength =>
      rw [ofJson?, if_neg (Nat.not_lt_of_le hlength)]
      exact fields_eq_some_iff.2 ⟨_, _, rfl, rfl, hs, hn⟩

/-- The text stands in one of the places and is no whole number of 64 bits. -/
def Garbled (d : SecondsNanos) (text : String) : Prop :=
  (d.seconds = some (.text text) ∨ d.nanos = some (.text text)) ∧
    int64? (Text.trimChars text.toList) = none

theorem parts?_of_garbled {d : SecondsNanos} {text : String} (h : d.Garbled text) :
    d.parts? = none := by
  obtain ⟨hplace, hnone⟩ := h
  have hpart : part? (some (.text text)) = none := hnone
  rcases hplace with hs | hn
  · simp only [parts?, hs, hpart, Option.bind_eq_bind, Option.bind_none]
  · simp only [parts?, hn, hpart, Option.bind_eq_bind, Option.bind_none, Option.bind_fun_none]

/-- The value writes a pair of seconds and nanoseconds. -/
def Writes (s n : Int) (v : Json) : Prop :=
  ∃ a b, Places v a b ∧ Count.Writes s a ∧ Count.Writes n b

theorem Writes.reads {s n : Int} {v : Json} (h : Writes s n v) (hs : InInt64 s) (hn : InInt64 n) :
    ∃ d, Reads v d ∧ d.parts? = some (s, n) := by
  obtain ⟨a, b, hplaces, ha, hb⟩ := h
  obtain ⟨c, hc, hseconds⟩ := ha.reads hs
  obtain ⟨e, he, hnanos⟩ := hb.reads hn
  refine ⟨⟨c, e⟩, ⟨a, b, hplaces, hc, he⟩, ?_⟩
  simp only [parts?, hseconds, hnanos, Option.bind_eq_bind, Option.bind_some, pure]

end SecondsNanos

/-! ### Lifetimes -/

namespace Ttl

/-- The value is a lifetime: seconds and nanoseconds, a number of seconds, or a text. -/
inductive Reads : Json → Ttl → Prop where
  | duration {v : Json} {d : SecondsNanos} (h : SecondsNanos.Reads v d) : Reads v (.duration d)
  | seconds {n : Int} (h : InInt64 n) : Reads (.number (.whole n)) (.seconds n)
  | text (s : String) : Reads (.string s) (.text s)

theorem ofJson?_eq_some_iff {v : Json} {t : Ttl} : ofJson? v = some t ↔ Reads v t := by
  constructor
  · intro h
    unfold ofJson? at h
    split at h
    · next d hd =>
      cases h
      exact .duration (SecondsNanos.ofJson?_eq_some_iff.1 hd)
    · split at h
      · next n =>
        obtain ⟨m, hm, rfl⟩ := Option.map_eq_some_iff.1 h
        obtain ⟨hn, rfl⟩ := Number.checkInt64_eq_some_iff.1 hm
        exact .seconds hn
      · cases h
        exact .text _
      · cases h
  · intro h
    cases h with
    | duration hd =>
      unfold ofJson?
      rw [SecondsNanos.ofJson?_eq_some_iff.2 hd]
    | seconds hn =>
      exact Option.map_eq_some_iff.2 ⟨_, Number.checkInt64_eq_some_iff.2 ⟨hn, rfl⟩, rfl⟩
    | text s => rfl

/-- The value writes a lifetime of seconds and nanoseconds. Whole seconds may stand alone. -/
inductive Writes : Int → Int → Json → Prop where
  | parts {s n : Int} {v : Json} (h : SecondsNanos.Writes s n v) : Writes s n v
  | seconds (s : Int) : Writes s 0 (.number (.whole s))

theorem Writes.reads {s n : Int} {v : Json} (h : Writes s n v) (hs : InInt64 s) (hn : InInt64 n) :
    ∃ t, Reads v t ∧ t.human = Duration.human s n := by
  cases h with
  | parts h =>
    obtain ⟨d, hd, hparts⟩ := h.reads hs hn
    refine ⟨_, .duration hd, ?_⟩
    simp only [human, hparts]
  | seconds => exact ⟨_, .seconds hs, rfl⟩

/-- A duration of which some part is a text that is no number. -/
inductive Unparsable : Ttl → Prop where
  | duration {d : SecondsNanos} {text : String} (h : d.Garbled text) : Unparsable (.duration d)

theorem Unparsable.human {t : Ttl} (h : t.Unparsable) : t.human = "" := by
  obtain ⟨hgarbled⟩ := h
  rw [Ttl.human, SecondsNanos.parts?_of_garbled hgarbled]

end Ttl

/-! ### Timestamps -/

namespace Timestamp

/-- The value is a timestamp: seconds and nanoseconds, or a text. -/
inductive Reads : Json → Timestamp → Prop where
  | parts {v : Json} {t : SecondsNanos} (h : SecondsNanos.Reads v t) : Reads v (.parts t)
  | rfc3339 (s : String) : Reads (.string s) (.rfc3339 s)

theorem ofJson?_eq_some_iff {v : Json} {t : Timestamp} : ofJson? v = some t ↔ Reads v t := by
  constructor
  · intro h
    unfold ofJson? at h
    split at h
    · next d hd =>
      cases h
      exact .parts (SecondsNanos.ofJson?_eq_some_iff.1 hd)
    · split at h
      · cases h
        exact .rfc3339 _
      · cases h
  · intro h
    cases h with
    | parts hd =>
      unfold ofJson?
      rw [SecondsNanos.ofJson?_eq_some_iff.2 hd]
    | rfc3339 s => rfl

theorem reads_of_writes {s n : Int} {v : Json} (h : SecondsNanos.Writes s n v) (hs : InInt64 s)
    (hn : InInt64 n) : ∃ t, Reads v t ∧ t.moment? = Calendar.Moment.ofParts? s n := by
  obtain ⟨d, hd, hparts⟩ := h.reads hs hn
  refine ⟨_, .parts hd, ?_⟩
  rw [moment?, hparts, Option.bind_some]

/-- A timestamp that is none of the dates there are: some part is a text that is no number, the
moment lies outside of all dates, or the text names no moment. -/
inductive Undated : Timestamp → Prop where
  | unparsable {d : SecondsNanos} {text : String} (h : d.Garbled text) : Undated (.parts d)
  | outside {d : SecondsNanos} {s n : Int} (h : d.parts? = some (s, n))
    (hrange : Calendar.Moment.ofParts? s n = none) : Undated (.parts d)
  | unreadable {s : String} (h : Calendar.Rfc3339.read? s.toList = none) : Undated (.rfc3339 s)

theorem Undated.moment? {t : Timestamp} (h : t.Undated) : t.moment? = none := by
  cases h with
  | unparsable h => rw [Timestamp.moment?, SecondsNanos.parts?_of_garbled h, Option.bind_none]
  | outside h hrange =>
    rw [Timestamp.moment?, h, Option.bind_some]
    exact hrange
  | unreadable h => exact h

end Timestamp

end TokenConsole.Gateway
