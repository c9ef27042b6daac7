import TokenConsole.Proofs.Page.Admin
import TokenConsole.Proofs.Page.Login

/-!
# What is in flight on a page

Along every run of a page, whatever the user does meanwhile and in whatever order the tasks end, the
flags and counters that the page keeps by hand are what is in flight. A task is in flight from its
start until its message is handed over.
-/
namespace TokenConsole

open TokenConsole.Calendar (Zone)
open TokenConsole.Gateway (Error Flow)

/-! ### The login page -/

namespace LoginPage

/-- The accounts of the page are right. -/
structure Accounted (r : Runtime LoginPage Message) : Prop where
  serves : ∀ t ∈ r.tasks, ∃ j, machine.jobOf t.work = some j ∧ Serves j t.work
  signIn : r.state.signIn.isSubmitting = true ↔ machine.inFlight .signIn r = 1
  signIn_once : machine.inFlight .signIn r ≤ 1
  signUp : r.state.signUp.isSubmitting = true ↔ machine.inFlight .signUp r = 1
  signUp_once : machine.inFlight .signUp r ≤ 1

theorem reaches_accounted {r : Runtime LoginPage Message}
    (h : machine.Reaches (fun _ m => m.job? = none) start r) : Accounted r := by
  have hstart : machine.AllReport start := fun t ht => by cases ht
  obtain ⟨-, hb⟩ := h.accounts plans.faithful keeps_balanced hstart ⟨rfl, rfl⟩
  obtain ⟨-, hw⟩ := h.works (fun env m p hp => equipped_update hp env.1 m env.2)
    (fun env m p hp f hf => serves_update hp env.1 m env.2 hf) equipped_fresh
    fun t ht => by cases ht
  exact ⟨hw, hb.signIn.isSubmitting_iff, hb.signIn.le_one, hb.signUp.isSubmitting_iff,
    hb.signUp.le_one⟩

end LoginPage

/-! ### The admin page -/

namespace AdminPage

/-- The accounts of the page are right. -/
structure Accounted [Zone] (r : Runtime AdminPage Message) : Prop where
  serves : ∀ t ∈ r.tasks, ∃ j, machine.jobOf t.work = some j ∧ Serves j t.work
  loads : r.state.grid.pendingLoads = machine.inFlight .load r
  loading : r.state.grid.isLoading = true ↔ 0 < machine.inFlight .load r
  deleting : ∀ id, r.state.grid.isDeleting id = true ↔ machine.inFlight (.deletion id) r = 1
  deleting_once : ∀ id, machine.inFlight (.deletion id) r ≤ 1
  tokenize : r.state.tokenize.isSubmitting = true ↔ machine.inFlight .tokenize r = 1
  tokenize_once : machine.inFlight .tokenize r ≤ 1
  detokenize : r.state.detokenize.isSubmitting = true ↔ machine.inFlight .detokenize r = 1
  detokenize_once : machine.inFlight .detokenize r ≤ 1
  confirming : ∀ id, r.state.grid.confirming = some id → r.state.grid.isDeleting id = false
  /-- Pressing refresh starts nothing while a load is in flight. -/
  refresh : ∀ env, 0 < machine.inFlight .load r →
    (machine.step (.message env (.grid .refresh)) r).tasks = r.tasks
  /-- A new token starts one load, and a submission that failed starts none. -/
  newToken : ∀ env, ∀ t ∈ r.tasks, ∀ result, t.rest = .done (.tokenize (.submitted result)) →
    machine.inFlight .load (machine.step (.deliver env t.number) r) =
      machine.inFlight .load r + if Dialog.succeeds result then 1 else 0

/-- What a task in flight hands over is a report on its job. -/
theorem job?_of_rest [Zone] {r : Runtime AdminPage Message} (h : machine.AllReport r)
    {t : Task Message} (ht : t ∈ r.tasks) {m : Message} (hd : t.rest = .done m) :
    machine.jobOf t.work = m.job? := by
  obtain ⟨j, hj, hrest⟩ := h t ht
  rw [hd] at hrest
  exact hj.trans hrest.symm

theorem refresh_idle [Zone] {r : Runtime AdminPage Message} (hl : r.state.grid.isLoading = true)
    (env : Nat × Toasts) : (machine.step (.message env (.grid .refresh)) r).tasks = r.tasks := by
  have hnone : flows (machine.update env (.grid .refresh) r.state).2 = [] := by
    change flows (r.state.update env.1 (.grid .refresh) env.2).effects = []
    rw [flows_update]
    simp [starts, Grid.starts, hl]
  change (machine.handle env (.grid .refresh) (r.note (.message (.grid .refresh)))).tasks = r.tasks
  rw [Machine.handle_tasks]
  change r.tasks ++ machine.tasksFor _ _ _ _ (flows (machine.update env (.grid .refresh) r.state).2)
    = r.tasks
  rw [hnone]
  exact List.append_nil r.tasks

theorem load_of_newToken [Zone] {r : Runtime AdminPage Message} (hn : Machine.Numbered r)
    (hr : machine.AllReport r) {t : Task Message} (ht : t ∈ r.tasks)
    {result : Except Error String} (hd : t.rest = .done (.tokenize (.submitted result)))
    (env : Nat × Toasts) :
    machine.inFlight .load (machine.step (.deliver env t.number) r) =
      machine.inFlight .load r + if Dialog.succeeds result then 1 else 0 := by
  obtain ⟨as, bs, hcut, hsplit⟩ := hn.cut ht
  have hjob : machine.jobOf t.work = some .tokenize := job?_of_rest hr ht hd
  have hstarts : r.state.starts (.tokenize (.submitted result)) =
      if Dialog.succeeds result then [.load] else [] := by
    simp [starts, Dialog.Message.submits, Dialog.Message.outcome, Dialog.verdict_isSome]
  have hnew : (flows (machine.update env (.tokenize (.submitted result)) r.state).2).map
      machine.jobOf = (r.state.starts (.tokenize (.submitted result))).map some :=
    plans.jobs_eq env
  have hold : machine.inFlight .load r =
      (as.map (fun t => machine.jobOf t.work) ++ bs.map fun t => machine.jobOf t.work).count
        (some .load) := by
    rw [Machine.inFlight, Machine.jobs, hcut, List.map_append, List.map_cons, hjob]
    exact Machine.count_cut_of_ne (by decide)
  rw [Machine.step_deliver hsplit hd, Machine.inFlight, Machine.jobs_handle]
  change ((as ++ bs).map (fun t => machine.jobOf t.work) ++
    (flows (machine.update env (.tokenize (.submitted result)) r.state).2).map
      machine.jobOf).count (some .load) = _
  rw [hnew, hstarts, Machine.count_append_some, List.map_append, ← hold]
  split <;> rfl

theorem reaches_accounted [Zone] {r : Runtime AdminPage Message}
    (h : machine.Reaches (fun _ m => m.job? = none) start r) : Accounted r := by
  have hstart : ∀ f ∈ flows fresh.2, f = Grid.loading.map .grid :=
    fun f hf => List.mem_singleton.1 hf
  have hreport : machine.AllReport start :=
    Machine.allReport_begin fun f hf => ⟨.load, hstart f hf ▸ reports_load⟩
  have hbegin : fresh.1.Balanced (machine.jobs start) := by
    rw [start, Machine.jobs_begin]
    exact ⟨⟨rfl, fun id => rfl, List.nodup_nil, fun id hid => by cases hid⟩, rfl, rfl⟩
  obtain ⟨hr, hb⟩ := h.accounts plans.faithful keeps_balanced hreport hbegin
  have hwork : ∀ t ∈ start.tasks, ∃ j, machine.jobOf t.work = some j ∧ Serves j t.work := by
    intro t ht
    rw [List.mem_singleton.1 ht]
    exact ⟨.load, Machine.jobOf_eq reports_load, rfl⟩
  obtain ⟨-, hw⟩ := h.works (fun env m p hp => equipped_update hp env.1 m env.2)
    (fun env m p hp f hf => serves_update hp env.1 m env.2 hf) equipped_fresh hwork
  have hn : Machine.Numbered r := h.numbered (Machine.numbered_begin _ _)
  have hdel : ∀ id, machine.inFlight (.deletion id) r = r.state.grid.deleting.count id :=
    hb.grid.deletions
  have hloads : machine.inFlight .load r = r.state.grid.pendingLoads := hb.grid.loads
  refine ⟨hw, hloads.symm, ?_, fun id => ?_, fun id => ?_, hb.tokenize.isSubmitting_iff,
    hb.tokenize.le_one, hb.detokenize.isSubmitting_iff, hb.detokenize.le_one, fun id hid => ?_,
    fun env hl => ?_, fun env t ht result hd => load_of_newToken hn hr ht hd env⟩
  · rw [hloads]
    exact r.state.grid.isLoading_iff
  · rw [hdel, Grid.isDeleting_iff, hb.grid.once.count]
    simp
  · rw [hdel]
    exact List.nodup_iff_count.1 hb.grid.once id
  · have hfree := hb.grid.confirming id hid
    rw [← Grid.isDeleting_iff] at hfree
    simpa using hfree
  · rw [hloads, ← Grid.isLoading_iff] at hl
    exact refresh_idle hl env

end AdminPage

/-- The accounts of both pages are right all along every run. -/
theorem pages_account_for_work_in_flight [Zone] :
    (∀ r, AdminPage.machine.Reaches (fun _ m => m.job? = none) AdminPage.start r →
      AdminPage.Accounted r) ∧
    ∀ r, LoginPage.machine.Reaches (fun _ m => m.job? = none) LoginPage.start r →
      LoginPage.Accounted r :=
  ⟨fun _ h => AdminPage.reaches_accounted h, fun _ h => LoginPage.reaches_accounted h⟩

/-- A token is made and a row is deleted while the first load is still on its way. -/
def AdminPage.busy : List (Event (Nat × Toasts) AdminPage.Message) :=
  let env := (0, Toasts.empty 4000)
  [.message env .openTokenize, .message env (.tokenize (.input "plaintext" "x")),
    .message env (.tokenize .submit), .message env (.grid .refresh), .ask 1,
    .answer 1 fun
      | .tokenize _ _ => .ok "t"
      | _ => .error .sessionExpired,
    .deliver env 1, .message env (.grid (.requestDelete "a")), .message env (.grid .confirmDelete)]

/-- A sign up goes on although its dialog was closed. -/
def LoginPage.busy : List (Event (Nat × Toasts) LoginPage.Message) :=
  let env := (0, Toasts.empty 4000)
  [.message env .openSignUp, .message env (.signUp (.input "login" "a")),
    .message env (.signUp .submit), .message env .openSignIn, .message env (.signIn .submit)]

theorem busy_pages_accounted :
    (AdminPage.Accounted (AdminPage.machine.run AdminPage.busy AdminPage.start) ∧
      (AdminPage.machine.run AdminPage.busy AdminPage.start).state.grid.pendingLoads = 2 ∧
      (AdminPage.machine.run AdminPage.busy AdminPage.start).state.grid.deleting = ["a"]) ∧
    LoginPage.Accounted (LoginPage.machine.run LoginPage.busy LoginPage.start) ∧
      (LoginPage.machine.run LoginPage.busy LoginPage.start).state.signUp.isSubmitting = true ∧
      (LoginPage.machine.run LoginPage.busy LoginPage.start).state.signUp.isOpen = false :=
  ⟨⟨pages_account_for_work_in_flight.1 _ (Machine.reaches_run (by decide)), by decide, by decide⟩,
    pages_account_for_work_in_flight.2 _ (Machine.reaches_run (by decide)), by decide, by decide⟩

end TokenConsole
