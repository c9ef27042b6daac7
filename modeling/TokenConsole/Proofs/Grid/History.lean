import Mathlib.Data.List.DropRight
import TokenConsole.Grid

/-!
# What the rows remember

The rows and the failure of a grid read off the messages that it has handled. The rows are those of
the last list that arrived, less those reported as deleted after it; no other message touches them.
-/
namespace TokenConsole.Grid

open TokenConsole.Calendar (Zone)
open TokenConsole.Gateway (Error Mapping)

/-- The answer to a load that a message brings. -/
def Message.answer? : Message → Option (Except Error (List Mapping))
  | .refreshed result => some result
  | _ => none

/-- The list that a message brings. -/
def Message.list? : Message → Option (List Mapping)
  | .refreshed (.ok rows) => some rows
  | _ => none

/-- The id whose deletion has succeeded. -/
def Message.gone? : Message → Option String
  | .deleted id (.ok _) => some id
  | _ => none

/-- The list that arrived last, empty if there was none. -/
def lastList (ms : List Message) : List Mapping := (ms.filterMap Message.list?).getLast?.getD []

/-- The ids reported as deleted since the last list arrived. -/
def goneSince (ms : List Message) : List String :=
  (ms.rtakeWhile (·.list?.isNone)).filterMap Message.gone?

def remembered (ms : List Message) : List Mapping :=
  (lastList ms).filter fun row => row.id ∉ goneSince ms

/-- The text of the last answer to a load, if that is a failure. -/
def lastFailure (ms : List Message) : Option String :=
  match (ms.filterMap Message.answer?).getLast? with
  | some (.error e) => some e.message
  | _ => none

/-- The grid and the toasts after some messages, each with its time. -/
def follow [Zone] (ms : List (Nat × Message)) (s : Grid × Toasts) : Grid × Toasts :=
  ms.foldl (fun s m => let r := s.1.update m.1 m.2 s.2; (r.grid, r.toasts)) s

theorem follow_snoc [Zone] (ms : List (Nat × Message)) (m : Nat × Message) (s : Grid × Toasts) :
    follow (ms ++ [m]) s =
      let r := (follow ms s).1.update m.1 m.2 (follow ms s).2
      (r.grid, r.toasts) := by
  simp only [follow, List.foldl_append, List.foldl_cons, List.foldl_nil]

/-! ### One message -/

section

variable (now : Nat) (m : Message) (g : Grid) (toasts : Toasts)

theorem confirm_rows : g.confirm.1.rows = g.rows ∧ g.confirm.1.error = g.error := by
  unfold confirm
  split
  · exact ⟨rfl, rfl⟩
  · dsimp only
    split
    · exact ⟨rfl, rfl⟩
    · exact ⟨rfl, rfl⟩

/-- A list takes the place of the rows, a deletion that succeeded takes its rows away. -/
theorem rows_update [Zone] : (g.update now m toasts).grid.rows =
    (m.list?.getD g.rows).filter fun row => m.gone? ≠ some row.id := by
  cases m with
  | refresh =>
    simp only [update]
    split <;> simp [load, Message.list?, Message.gone?]
  | refreshed result =>
    cases result <;> simp [update, showLoaded, clampPage, Message.list?, Message.gone?]
  | requestDelete id =>
    simp only [update]
    split <;> simp [Message.list?, Message.gone?]
  | confirmDelete => simp [update, g.confirm_rows, Message.list?, Message.gone?]
  | deleted id result =>
    cases result with
    | ok u =>
      change g.rows.filter (·.id != id) = _
      refine List.filter_congr fun row _ => ?_
      by_cases he : row.id = id
      · simp [Message.gone?, he]
      · simp [Message.gone?, he, Ne.symm he]
    | error e => simp [update, settleDeletion, Message.list?, Message.gone?]
  | nextPage =>
    simp only [update]
    split <;> simp [Message.list?, Message.gone?]
  | _ => simp [update, load, clampPage, Message.list?, Message.gone?]

theorem error_update [Zone] : (g.update now m toasts).grid.error =
    match m.answer? with
    | some (.error e) => some e.message
    | some (.ok _) => none
    | none => g.error := by
  cases m with
  | refresh =>
    simp only [update]
    split <;> rfl
  | refreshed result => cases result <;> rfl
  | requestDelete id =>
    simp only [update]
    split <;> rfl
  | confirmDelete => exact g.confirm_rows.2
  | deleted id result => cases result <;> rfl
  | nextPage =>
    simp only [update]
    split <;> rfl
  | _ => rfl

theorem rows_update_of_other [Zone] {m : Message} (hl : m.list? = none) (hg : m.gone? = none) :
    (g.update now m toasts).grid.rows = g.rows := by
  rw [rows_update, hl, hg]
  simp

end

/-! ### One more message -/

section

variable (ms : List Message) (m : Message)

theorem lastList_snoc : lastList (ms ++ [m]) = m.list?.getD (lastList ms) := by
  unfold lastList
  cases hl : m.list? with
  | none => simp [hl]
  | some rows => simp [hl]

theorem goneSince_snoc :
    goneSince (ms ++ [m]) = if m.list?.isNone then goneSince ms ++ m.gone?.toList else [] := by
  unfold goneSince
  rw [List.rtakeWhile_concat]
  split
  · cases hg : m.gone? <;> simp [hg]
  · rfl

/-- A message that brings a list reports no deletion. -/
theorem Message.gone?_of_list? {m : Message} {rows : List Mapping} (h : m.list? = some rows) :
    m.gone? = none := by
  cases m with
  | refreshed result => rfl
  | _ => cases h

theorem remembered_snoc : remembered (ms ++ [m]) =
    (m.list?.getD (remembered ms)).filter fun row => m.gone? ≠ some row.id := by
  unfold remembered
  rw [lastList_snoc, goneSince_snoc]
  cases hl : m.list? with
  | some rows => simp [Message.gone?_of_list? hl]
  | none =>
    simp only [Option.isNone_none, if_true, Option.getD_none, List.filter_filter]
    refine List.filter_congr fun row _ => ?_
    cases hg : m.gone? with
    | none => simp
    | some id => simp [and_comm, eq_comm]

theorem lastFailure_snoc : lastFailure (ms ++ [m]) =
    match m.answer? with
    | some (.error e) => some e.message
    | some (.ok _) => none
    | none => lastFailure ms := by
  unfold lastFailure
  rcases ha : m.answer? with _ | (e | rows) <;> simp [ha]

end

/-! ### All messages -/

/-- The rows and the failure that a grid shows are those that its messages tell of, in any order in
which they came. A message that brings no list and reports no deletion leaves every row where it
is. -/
theorem rows_and_error_of_history [Zone] (ms : List (Nat × Message)) (toasts : Toasts) :
    (follow ms (.empty, toasts)).1.rows = remembered (ms.map Prod.snd) ∧
      (follow ms (.empty, toasts)).1.error = lastFailure (ms.map Prod.snd) ∧
      ∀ now m g toasts, Message.list? m = none → m.gone? = none →
        (update now m g toasts).grid.rows = g.rows := by
  refine ⟨?_, ?_, fun now m g toasts hl hg => rows_update_of_other now g toasts hl hg⟩
  · induction ms using List.reverseRecOn with
    | nil => rfl
    | append_singleton ms m ih =>
      rw [follow_snoc, List.map_append, List.map_singleton, remembered_snoc, ← ih]
      exact rows_update _ _ _ _
  · induction ms using List.reverseRecOn with
    | nil => rfl
    | append_singleton ms m ih =>
      rw [follow_snoc, List.map_append, List.map_singleton, lastFailure_snoc, ← ih]
      exact error_update _ _ _ _

/-- A row of which nothing but the id is known. -/
def bareRow (id : String) : Mapping :=
  { id, cipherText := "", wrappedKey := "", ttl := "", createdAt := none, deterministic := none,
    reversible := none }

/-- Two rows of one id are deleted while the next load fails. -/
def deletingTwice : List (Nat × Message) :=
  [(0, .refreshed (.ok [bareRow "a", bareRow "b", bareRow "a"])), (1, .requestDelete "a"),
    (2, .confirmDelete), (3, .refreshed (.error .sessionExpired)), (4, .deleted "a" (.ok ()))]

theorem rows_after_deletingTwice :
    (follow deletingTwice (.empty, .empty 4000)).1.rows = [bareRow "b"] ∧
      (follow deletingTwice (.empty, .empty 4000)).1.error = some Error.sessionExpired.message ∧
      (update 5 .reload (follow deletingTwice (.empty, .empty 4000)).1 (.empty 4000)).grid.rows =
        [bareRow "b"] := by
  obtain ⟨hrows, herror, hkeep⟩ := rows_and_error_of_history deletingTwice (.empty 4000)
  have hleft : remembered (deletingTwice.map Prod.snd) = [bareRow "b"] := by decide
  refine ⟨hrows.trans hleft, herror.trans rfl, ?_⟩
  rw [hkeep 5 .reload _ _ rfl rfl, hrows, hleft]

end TokenConsole.Grid
