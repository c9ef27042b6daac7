import TokenConsole.Proofs.Gateway.Listing

/-!
# One pair, many encodings

The gateway has many ways to write a pair of seconds and nanoseconds. The list of mappings shows
the same lifetime and the same date for all of them.
-/
namespace TokenConsole.Gateway.Mapping

open Record (HasId cell blank)
open TokenConsole.Number (InInt64)

/-- However a lifetime or a timestamp is written, its cell shows the pair that was written, and the
list is otherwise what it is with null in this cell. So it is read if it would be read then. -/
theorem list_of_written_pair {s n : Int} (hs : InInt64 s) (hn : InInt64 n) (item : Json)
    (before rest : List Json) :
    (Ttl.Writes s n (cell item .ttl) →
      listOfJson (.array (before ++ item :: rest)) =
        (listOfJson (.array (before ++ blank .ttl item :: rest))).map (fun ms =>
          ms.modify before.length fun m => { m with ttl := Duration.human s n }) ∧
      ((∀ v ∈ before ++ blank .ttl item :: rest, HasId v) →
        ∃ ms, listOfJson (.array (before ++ item :: rest)) = .ok ms)) ∧
    (SecondsNanos.Writes s n (cell item .createdAt) →
      listOfJson (.array (before ++ item :: rest)) =
        (listOfJson (.array (before ++ blank .createdAt item :: rest))).map (fun ms =>
          ms.modify before.length fun m =>
            { m with createdAt := Calendar.Moment.ofParts? s n }) ∧
      ((∀ v ∈ before ++ blank .createdAt item :: rest, HasId v) →
        ∃ ms, listOfJson (.array (before ++ item :: rest)) = .ok ms)) := by
  constructor
  · intro h
    obtain ⟨t, ht, hhuman⟩ := h.reads hs hn
    have hlist := listOfJson_of_ttl (.value ht) before rest
    rw [Option.map_some, Option.getD_some, hhuman] at hlist
    exact ⟨hlist, listOfJson_of_hasId hlist⟩
  · intro h
    obtain ⟨t, ht, hmoment⟩ := Timestamp.reads_of_writes h hs hn
    have hlist := listOfJson_of_createdAt (.value ht) before rest
    rw [Option.bind_some, hmoment] at hlist
    exact ⟨hlist, listOfJson_of_hasId hlist⟩

/-- An item whose two amounts are an hour: an object with a member that says nothing, and an array
of one text. -/
def hourItem : Json :=
  .object [("created_at", .array [.string "3600"]), ("id", .string "a"),
    ("token_ttl",
      .object [("nanos", .null), ("scale", .bool true), ("seconds", .string " 3600\n")])]

theorem list_of_hour : InInt64 3600 ∧ InInt64 0 ∧ Ttl.Writes 3600 0 (cell hourItem .ttl) ∧
    SecondsNanos.Writes 3600 0 (cell hourItem .createdAt) ∧
    listOfJson (.array [hourItem]) = .ok [⟨"a", "", "", "1h 0m", some ⟨3600, 0⟩, none, none⟩] := by
  have hs : InInt64 3600 := by decide
  have hn : InInt64 0 := by decide
  have hseconds : Count.Writes 3600 (.string " 3600\n") :=
    @Count.Writes.text 3600 " " "\n" (by decide) (by decide)
  have httl : Ttl.Writes 3600 0 (cell hourItem .ttl) :=
    .parts ⟨_, _, .object (by decide) (by decide), hseconds, .zero⟩
  have hfirst : Count.Writes 3600 (.string "3600") :=
    @Count.Writes.text 3600 "" "" (by decide) (by decide)
  have hcreated : SecondsNanos.Writes 3600 0 (cell hourItem .createdAt) :=
    ⟨_, _, .array (by decide), hfirst, .zero⟩
  refine ⟨hs, hn, httl, hcreated, ?_⟩
  have hlist := ((list_of_written_pair hs hn hourItem [] []).1 httl).1
  rw [List.nil_append, List.nil_append] at hlist
  rw [hlist]
  decide +kernel

end TokenConsole.Gateway.Mapping
