import TokenConsole.Proofs.Grid.History
import TokenConsole.Proofs.Machine.Progress
import TokenConsole.Proofs.Page.Admin

/-!
# Where the rows of the admin page come from

Loads overlap, with each other and with deletions, and their lists may arrive in any order. The
page shows the list that arrived last, which need not be the one that was asked for last: a list
that is overtaken by a later one still takes its place, and brings rows back that were deleted
meanwhile. The rows are up to date if the lists arrive in the order in which they were asked for.
-/
namespace TokenConsole.AdminPage

open TokenConsole.Calendar (Zone)
open TokenConsole.Gateway (Call Error Mapping)

/-- The list that a message brings. -/
def Message.list? : Message → Option (List Mapping)
  | .grid m => m.list?
  | _ => none

/-- The id whose deletion has succeeded. -/
def Message.gone? : Message → Option String
  | .grid m => m.gone?
  | _ => none

/-- A load that has succeeded, with the list that it brought. -/
structure Arrival where
  stamp : Stamp Message
  rows : List Mapping

def arrival? : Entry Message → Option Arrival
  | .delivered s m => m.list?.map fun rows => ⟨s, rows⟩
  | _ => none

/-- The loads that have succeeded, in the order in which their lists arrived. -/
def arrivals (log : List (Entry Message)) : List Arrival := log.filterMap arrival?

/-- The row came with a load that no later load has overtaken. -/
def Fresh (log : List (Entry Message)) (row : Mapping) : Prop :=
  ∃ x ∈ arrivals log, row ∈ x.rows ∧ ∀ y ∈ arrivals log, y.stamp.number ≤ x.stamp.number

theorem delivered_of_arrival {entry : Entry Message} {x : Arrival} (h : arrival? entry = some x) :
    ∃ m, entry = .delivered x.stamp m := by
  cases entry with
  | delivered s m =>
    obtain ⟨rows, -, rfl⟩ := Option.map_eq_some_iff.1 h
    exact ⟨m, rfl⟩
  | _ => cases h

@[simp] theorem arrivals_append (as bs : List (Entry Message)) :
    arrivals (as ++ bs) = arrivals as ++ arrivals bs := List.filterMap_append

/-- A list comes from outside only as a report. -/
theorem Message.list?_of_outside {m : Message} (h : m.job? = none) : m.list? = none := by
  cases m with
  | grid m =>
    cases m with
    | refreshed result => cases h
    | _ => rfl
  | _ => rfl

theorem rows_update [Zone] (now : Nat) (m : Message) (p : AdminPage) (toasts : Toasts) :
    (p.update now m toasts).page.grid.rows =
      (m.list?.getD p.grid.rows).filter fun row => m.gone? ≠ some row.id := by
  cases m with
  | tokenize m =>
    rw [update_tokenize]
    dsimp only
    split <;> simp [Message.list?, Message.gone?, Grid.load]
  | grid m => exact p.grid.rows_update now m toasts
  | _ => simp [update, Message.list?, Message.gone?]

/-- A row that is shown after a message came with its list, or was there and is not deleted. -/
theorem mem_rows_update [Zone] {now : Nat} {m : Message} {p : AdminPage} {toasts : Toasts}
    {row : Mapping} (h : row ∈ (p.update now m toasts).page.grid.rows) :
    (∃ rows, m.list? = some rows ∧ row ∈ rows) ∨
      (m.list? = none ∧ row ∈ p.grid.rows ∧ m.gone? ≠ some row.id) := by
  rw [rows_update, List.mem_filter, decide_eq_true_eq] at h
  obtain ⟨hrow, hgone⟩ := h
  cases hl : m.list? with
  | some rows => exact .inl ⟨rows, rfl, by simpa [hl] using hrow⟩
  | none => exact .inr ⟨rfl, by simpa [hl] using hrow, hgone⟩

/-! ### Runs -/

section

variable {r r' a b : Runtime AdminPage Message} {e : Event (Nat × Toasts) Message}

/-- Every row of `r` is one of `a`, or came with the list that arrived last since then. -/
def Since (a r : Runtime AdminPage Message) (more : List (Entry Message)) : Prop :=
  ∀ row ∈ r.state.grid.rows, (arrivals more = [] ∧ row ∈ a.state.grid.rows) ∨
    ∃ x, (arrivals more).getLast? = some x ∧ row ∈ x.rows

theorem Since.refl (a : Runtime AdminPage Message) : Since a a [] :=
  fun _ hrow => .inl ⟨rfl, hrow⟩

theorem Since.trans {more new : List (Entry Message)} (h : Since a r more)
    (h' : Since r r' new) : Since a r' (more ++ new) := by
  intro row hrow
  rw [arrivals_append]
  rcases h' row hrow with ⟨hnew, hold⟩ | ⟨x, hx, hmem⟩
  · rw [hnew, List.append_nil]
    exact h row hold
  · exact .inr ⟨x, by rw [List.getLast?_append, hx]; rfl, hmem⟩

theorem step_since [Zone] (h : machine.Step r e r')
    (hoff : ∀ env m, e = .message env m → m.job? = none) :
    ∃ new, r'.log = r.log ++ new ∧ Since r r' new := by
  cases h with
  | idle => exact ⟨[], by simp, .refl r⟩
  | ask _ _ _ => exact ⟨[.asked _ _], rfl, .refl r⟩
  | answer _ _ _ => exact ⟨[.answered _ _], rfl, .refl r⟩
  | @message env m =>
    refine ⟨[.message m], rfl, fun row hrow => .inl ⟨rfl, ?_⟩⟩
    have hnone : m.list? = none := Message.list?_of_outside (hoff env m rfl)
    rcases mem_rows_update hrow with ⟨rows, hl, -⟩ | ⟨-, hmem, -⟩
    · rw [hnone] at hl
      cases hl
    · exact hmem
  | @deliver env as bs t m ht hd =>
    refine ⟨[.delivered t.toStamp m], rfl, fun row hrow => ?_⟩
    rcases mem_rows_update hrow with ⟨rows, hl, hmem⟩ | ⟨hl, hmem, -⟩
    · exact .inr ⟨⟨t.toStamp, rows⟩, by simp [arrivals, arrival?, hl], hmem⟩
    · exact .inl ⟨by simp [arrivals, arrival?, hl], hmem⟩

theorem reaches_since [Zone] (h : machine.Reaches (fun _ m => m.job? = none) a b) :
    ∃ more, b.log = a.log ++ more ∧ Since a b more := by
  refine h.invariant (P := fun r => ∃ more, r.log = a.log ++ more ∧ Since a r more)
    ⟨[], by simp, .refl a⟩ fun r e r' _ _ hp hs hoff => ?_
  obtain ⟨more, hlog, hsince⟩ := hp
  obtain ⟨new, hlog', hstep⟩ := step_since hs hoff
  exact ⟨more ++ new, by rw [hlog', hlog, List.append_assoc], hsince.trans hstep⟩

/-- The last of some loads that arrived in order is the newest of them. -/
theorem newest_of_ordered {xs : List Arrival} {x : Arrival}
    (hordered : xs.Pairwise fun x y => x.stamp.number < y.stamp.number)
    (hlast : xs.getLast? = some x) : ∀ y ∈ xs, y.stamp.number ≤ x.stamp.number := by
  obtain ⟨ys, rfl⟩ := List.getLast?_eq_some_iff.1 hlast
  intro y hy
  rcases List.mem_append.1 hy with hy | hy
  · exact Nat.le_of_lt ((List.pairwise_append.1 hordered).2.2 y hy x (List.mem_singleton_self x))
  · rw [List.mem_singleton.1 hy]

/-- The rows that are shown came with the list that arrived last. -/
theorem reaches_shown [Zone] (h : machine.Reaches (fun _ m => m.job? = none) start r) :
    ∀ row ∈ r.state.grid.rows, ∃ x, (arrivals r.log).getLast? = some x ∧ row ∈ x.rows := by
  obtain ⟨more, hlog, hsince⟩ := reaches_since h
  intro row hrow
  have hmore : r.log = more := hlog
  rcases hsince row hrow with ⟨-, hstart⟩ | hlast
  · cases hstart
  · rw [hmore]
    exact hlast

/-- Once an id is reported as deleted, no row has it. -/
theorem no_row_of_deleted [Zone] (hn : Machine.Numbered r) {t : Task Message} (ht : t ∈ r.tasks)
    {id : String} {u : Unit} (hd : t.rest = .done (.grid (.deleted id (.ok u))))
    (env : Nat × Toasts) :
    ∀ row ∈ (machine.step (.deliver env t.number) r).state.grid.rows, row.id ≠ id := by
  intro row hrow
  rw [(Machine.deliver_mem hn ht hd env).1] at hrow
  rcases mem_rows_update hrow with ⟨rows, hl, -⟩ | ⟨-, -, hgone⟩
  · cases hl
  · exact fun he => hgone (congrArg some he.symm)

/-- From the moment at which a task in flight at `r` reports that an id is deleted, no row has that
id until a load is the last to arrive whose stamp fits that moment. -/
def GoneUntil [Zone] (fit : Runtime AdminPage Message → Stamp Message → Prop)
    (r : Runtime AdminPage Message) : Prop :=
  ∀ env, ∀ t ∈ r.tasks, ∀ id u, t.rest = .done (.grid (.deleted id (.ok u))) → ∀ b more,
    machine.Reaches (fun _ m => m.job? = none) (machine.step (.deliver env t.number) r) b →
    b.log = (machine.step (.deliver env t.number) r).log ++ more →
    ∀ row ∈ b.state.grid.rows, row.id = id → ∃ x, (arrivals more).getLast? = some x ∧
      row ∈ x.rows ∧ fit (machine.step (.deliver env t.number) r) x.stamp

theorem reaches_gone [Zone] (h : machine.Reaches (fun _ m => m.job? = none) start r) :
    GoneUntil Machine.Pending r := by
  intro env t ht id u hd b more hb hmore row hrow hid
  have hn : Machine.Numbered r := h.numbered (Machine.numbered_begin _ _)
  obtain ⟨added, hlog, hsince⟩ := reaches_since hb
  obtain ⟨added', hlog', hpending⟩ := hb.delivered_since
  obtain rfl : more = added := List.append_cancel_left (hmore.symm.trans hlog)
  obtain rfl : more = added' := List.append_cancel_left (hmore.symm.trans hlog')
  rcases hsince row hrow with ⟨-, hold⟩ | ⟨x, hx, hmem⟩
  · exact absurd hid (no_row_of_deleted hn ht hd env row hold)
  · obtain ⟨entry, hentry, harrival⟩ := List.mem_filterMap.1 (List.mem_of_getLast? hx)
    obtain ⟨m, rfl⟩ := delivered_of_arrival harrival
    exact ⟨x, hx, hmem, hpending _ _ hentry⟩

end

/-- Answers to a page that lists `rows`; all else succeeds. -/
def answerRows (rows : List Mapping) : (c : Call) → c.Reply
  | .listMappings => .ok rows
  | .signIn _ _ => .ok "1"
  | .isAdmin _ => .ok true
  | .tokenize _ _ => .ok "t"
  | .detokenize _ => .ok "x"
  | .signUp _ _ => .ok ()
  | .deleteMapping _ => .ok ()

/-- The task of a number makes its call, is answered and reports. -/
def finishing (number : Nat) (rows : List Mapping) : List (Event (Nat × Toasts) Message) :=
  [.ask number, .answer number (answerRows rows), .deliver (0, .empty 4000) number]

/-- A new token starts a second load, which overtakes the first one. -/
def overtaking : List (Event (Nat × Toasts) Message) :=
  let env := (0, Toasts.empty 4000)
  [.message env .openTokenize, .message env (.tokenize (.input "plaintext" "x")),
    .message env (.tokenize .submit)] ++ finishing 1 [] ++
  finishing 2 [Grid.bareRow "new"] ++ finishing 0 [Grid.bareRow "old"]

/-- A row is deleted while a load is in flight that lists it. The deletion is about to be
reported. -/
def deletingListed : List (Event (Nat × Toasts) Message) :=
  let env := (0, Toasts.empty 4000)
  finishing 0 [Grid.bareRow "a"] ++
  [.message env (.grid .refresh), .ask 1, .answer 1 (answerRows [Grid.bareRow "a"]),
    .message env (.grid (.requestDelete "a")), .message env (.grid .confirmDelete),
    .ask 2, .answer 2 (answerRows [])]

/-- The numbers of the loads that have succeeded, with their lists. -/
def lists (log : List (Entry Message)) : List (Nat × List Mapping) :=
  (arrivals log).map fun x => (x.stamp.number, x.rows)

/-- Lists that arrive late are shown all the same, and bring rows back that were deleted. -/
theorem late_lists_shown :
    (¬ ∀ r, machine.Reaches (fun _ m => m.job? = none) start r →
      ∀ row ∈ r.state.grid.rows, Fresh r.log row) ∧
    ¬ ∀ r, machine.Reaches (fun _ m => m.job? = none) start r →
      GoneUntil (fun a s => a.started ≤ s.number) r := by
  constructor
  · intro hall
    have hlists : lists (machine.run overtaking start).log =
        [(2, [Grid.bareRow "new"]), (0, [Grid.bareRow "old"])] := by decide
    have hrun : machine.Reaches (fun _ m => m.job? = none) start (machine.run overtaking start) :=
      Machine.reaches_run (by decide)
    obtain ⟨x, hx, hmem, hnewest⟩ := hall _ hrun (Grid.bareRow "old") (by decide)
    -- Only the first load lists the row, and the second one is newer.
    have hfirst : x.stamp.number = 0 := by
      have hin : (x.stamp.number, x.rows) ∈ lists (machine.run overtaking start).log :=
        List.mem_map_of_mem hx
      rw [hlists] at hin
      rcases List.mem_cons.1 hin with he | hin
      · rw [(Prod.mk.inj he).2] at hmem
        exact absurd hmem (by decide)
      · exact (Prod.mk.inj (List.mem_singleton.1 hin)).1
    have hsecond : (2, [Grid.bareRow "new"]) ∈ lists (machine.run overtaking start).log := by
      rw [hlists]
      exact List.mem_cons_self
    obtain ⟨y, hy, he⟩ := List.mem_map.1 hsecond
    have hle := hnewest y hy
    rw [(Prod.mk.inj he).1, hfirst] at hle
    omega
  · intro hall
    have hrun : machine.Reaches (fun _ m => m.job? = none) start
        (machine.run deletingListed start) := Machine.reaches_run (by decide)
    obtain ⟨x, hx, -, hlate⟩ := hall _ hrun (0, .empty 4000)
      ((machine.run deletingListed start).tasks[1]) (List.getElem_mem _) "a" () rfl _ _
      (Machine.reaches_deliver (0, .empty 4000) 1) rfl (Grid.bareRow "a") (by decide) rfl
    cases hx
    exact absurd hlate (by decide)

/-- The rows are those of the load whose list arrived last. So they are up to date if the lists
arrive in the order of their loads; and a row that was deleted comes back only with a load that was
in flight then or started later. -/
theorem rows_came_with_last_list [Zone] {r : Runtime AdminPage Message}
    (h : machine.Reaches (fun _ m => m.job? = none) start r) :
    (∀ row ∈ r.state.grid.rows, ∃ x, (arrivals r.log).getLast? = some x ∧ row ∈ x.rows) ∧
    ((arrivals r.log).Pairwise (fun x y => x.stamp.number < y.stamp.number) →
      ∀ row ∈ r.state.grid.rows, Fresh r.log row) ∧
    GoneUntil Machine.Pending r := by
  refine ⟨reaches_shown h, fun hordered row hrow => ?_, reaches_gone h⟩
  obtain ⟨x, hlast, hmem⟩ := reaches_shown h row hrow
  exact ⟨x, List.mem_of_getLast? hlast, hmem, newest_of_ordered hordered hlast⟩

/-- A deletion is reported while the load that lists the row is still on its way. -/
theorem rows_of_deletingListed :
    (machine.run deletingListed start).state.grid.rows = [Grid.bareRow "a"] ∧
      Fresh (machine.run deletingListed start).log (Grid.bareRow "a") ∧
      GoneUntil Machine.Pending (machine.run deletingListed start) := by
  have hrows : (machine.run deletingListed start).state.grid.rows = [Grid.bareRow "a"] := by decide
  obtain ⟨-, hfresh, hgone⟩ := rows_came_with_last_list
    (r := machine.run deletingListed start) (Machine.reaches_run (by decide))
  refine ⟨hrows, hfresh ?_ _ (by rw [hrows]; exact List.mem_cons_self), hgone⟩
  exact List.pairwise_singleton _ _

end TokenConsole.AdminPage
