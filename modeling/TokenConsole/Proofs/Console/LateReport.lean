import TokenConsole.Proofs.Console.Continuation
import TokenConsole.Proofs.Page.Report

/-!
# Reports of earlier pages

A task that was started before the user signed out may end after that. Its report is dropped while a
page of the other kind is shown, and else it is taken for a report to the page that is shown. So
signing out keeps the new pages apart from the old ones exactly if no task was in flight.
-/
namespace TokenConsole.Console

open TokenConsole.Accounts (User)
open TokenConsole.Calendar (Zone)
open TokenConsole.Gateway (Error Flow Mapping)

/-- The reports on each job. -/
inductive Report : Job → Message → Prop where
  | signIn (result : Except Error User) : Report .signIn (.login (.signIn (.submitted result)))
  | signUp (result : Except Error String) : Report .signUp (.login (.signUp (.submitted result)))
  | load (result : Except Error (List Mapping)) : Report .load (.admin (.grid (.refreshed result)))
  | deletion (id : String) (result : Except Error Unit) :
      Report (.deletion id) (.admin (.grid (.deleted id result)))
  | tokenize (result : Except Error String) :
      Report .tokenize (.admin (.tokenize (.submitted result)))
  | detokenize (result : Except Error String) :
      Report .detokenize (.admin (.detokenize (.submitted result)))

theorem report_of_job {m : Message} {j : Job} (h : m.job? = some j) : Report j m := by
  cases m with
  | interrupt => cases h
  | toast m => cases h
  | login m =>
    cases m with
    | signIn m =>
      cases m with
      | submitted result =>
        cases h
        exact .signIn result
      | _ => cases h
    | signUp m =>
      cases m with
      | submitted result =>
        cases h
        exact .signUp result
      | _ => cases h
    | _ => cases h
  | admin m =>
    cases m with
    | tokenize m =>
      cases m with
      | submitted result =>
        cases h
        exact .tokenize result
      | _ => cases h
    | detokenize m =>
      cases m with
      | submitted result =>
        cases h
        exact .detokenize result
      | _ => cases h
    | grid m =>
      cases m with
      | refreshed result =>
        cases h
        exact .load result
      | deleted id result =>
        cases h
        exact .deletion id result
      | _ => cases h
    | _ => cases h

/-! ### When a report leaves the page as it is -/

/-- The grid of an admin page that is shown shows a page that exists. -/
def Paged [Zone] (c : Console) : Prop := ∀ p, c.page = .admin p → p.grid.Paged

/-- The page has nothing to learn from a report, which is for the other kind of page or brings
nothing new. -/
def Settled (now : Nat) : Page → Message → Prop
  | .login p, .login m =>
    p.Settled now m ∧ ∀ u, m = .signIn (.submitted (.ok u)) → u.admin = false
  | .admin p, .admin m => p.Settled now m
  | _, _ => True

theorem Turn.paged [Zone] {connected : Except Error Unit} {now : Nat} {c c' : Console} {m : Message}
    {fs : List (Flow Message)} (h : Turn connected now c m c' fs) (hc : c.Paged) : c'.Paged := by
  intro q hq
  cases h with
  | outside _ _ => exact hc q hq
  | login _ _ => cases hq
  | enter _ _ =>
    cases hq
    exact Grid.paged_fresh
  | admin hp _ =>
    cases hq
    exact AdminPage.paged_update (hc _ hp) _ _ _
  | lateLogin _ => exact hc q hq
  | lateAdmin _ _ => exact hc q hq
  | logout =>
    rw [logout_page] at hq
    cases hq

theorem report_page_eq_iff [Zone] {m : Message} {j : Job} (hm : m.job? = some j) {c : Console}
    (hc : c.Paged) (connected : Except Error Unit) (now : Nat) :
    (c.update connected now m).1.page = c.page ↔ Settled now c.page m := by
  cases m with
  | interrupt => cases hm
  | toast m => cases hm
  | login m =>
    cases hp : c.page with
    | admin p => simp [update, hp, Settled]
    | login p =>
      by_cases ha : (p.update now m c.toasts).user.any (·.admin) = true
      · obtain ⟨u, hu, hadmin⟩ := (Option.any_eq_true _ _).1 ha
        have hreport := LoginPage.user_eq_some _ _ _ hu
        have hpage : (c.update connected now (.login m)).1.page = .admin AdminPage.fresh.1 := by
          simp [update, hp, ha]
        rw [hpage]
        refine ⟨fun he => (by cases he), fun hs => ?_⟩
        rw [hs.2 u hreport] at hadmin
        cases hadmin
      · have hpage : (c.update connected now (.login m)).1.page =
            .login (p.update now m c.toasts).page := by
          simp [update, hp, ha]
        rw [hpage, Page.login.injEq, LoginPage.report_eq_self_iff hm]
        refine ⟨fun hs => ⟨hs, fun u hu => ?_⟩, fun hs => hs.1⟩
        subst hu
        cases hadmin : u.admin with
        | false => rfl
        | true => simp [p.user_of_admin now c.toasts hadmin, hadmin] at ha
  | admin m =>
    have hne : m ≠ .logout := by
      rintro rfl
      cases hm
    rw [update_admin connected now hne]
    cases hp : c.page with
    | login p => simp [hp, Settled]
    | admin p =>
      dsimp only
      rw [Page.admin.injEq]
      exact AdminPage.report_eq_self_iff hm (hc p hp) now c.toasts

/-! ### Signing out with tasks in flight -/

section

variable [Zone] {timeout : Nat} {r : Runtime Console Message} {offered : Console → Message → Prop}

theorem reaches_paged (h : machine.Reaches offered (start timeout) r) : r.state.Paged :=
  h.kept (fun env m c hc => (turn_sound env.1 env.2 m c).paged hc) fun p hp => by cases hp

theorem reaches_allReport (h : machine.Reaches offered (start timeout) r) : machine.AllReport r :=
  h.allReport faithful fun t ht => by cases ht

/-- What a task in flight hands over is a report on its job. -/
theorem job?_of_rest (hr : machine.AllReport r) {t : Task Message} (ht : t ∈ r.tasks) {m : Message}
    (hd : t.rest = .done m) : machine.jobOf t.work = m.job? := by
  obtain ⟨j, hj, hrest⟩ := hr t ht
  rw [hd] at hrest
  exact hj.trans hrest.symm

theorem delivered_page_eq_iff (h : machine.Reaches offered (start timeout) r) {t : Task Message}
    (ht : t ∈ r.tasks) {m : Message} (hd : t.rest = .done m) (env : Except Error Unit × Nat) :
    (machine.step (.deliver env t.number) r).state.page = r.state.page ↔
      Settled env.2 r.state.page m := by
  obtain ⟨j, -, hrest⟩ := reaches_allReport h t ht
  rw [hd] at hrest
  rw [(Machine.deliver_mem (M := machine) (reaches_numbered h) ht hd env).1]
  exact report_page_eq_iff hrest (reaches_paged h) env.1 env.2

/-- Whatever run follows, the reports of the tasks that were started before leave the page that is
shown as it is. -/
def Isolates (offered : Console → Message → Prop) (started : Nat) (a : Runtime Console Message) :
    Prop :=
  ∀ b env t m, machine.Reaches offered a b → t ∈ b.tasks → t.number < started → t.rest = .done m →
    (machine.step (.deliver env t.number) b).state.page = b.state.page

/-- An old task whose reports a page would take is a way to change that page. -/
theorem not_isolates {earlier : Console → Message → Prop} {a b : Runtime Console Message}
    {started : Nat} (ha : machine.Reaches earlier (start timeout) a)
    (hab : machine.Reaches offered a b) {t : Task Message} (ht : t ∈ b.tasks)
    (hlt : t.number < started) {j : Job} (hj : machine.jobOf t.work = some j)
    (hopen : ∀ m, Report j m → ¬ Settled 0 b.state.page m) : ¬ Isolates offered started a := by
  intro hiso
  have hb : machine.Reaches (fun _ _ => True) (start timeout) b :=
    (ha.mono fun _ _ _ => trivial).trans (hab.mono fun _ _ _ => trivial)
  -- Run the task to its end, which leaves the page alone, and hand over what it reports.
  obtain ⟨d, u, hbd, hmove, hdone⟩ := Machine.exists_finished machine offered
    (reaches_numbered hb) ht fun _ => .error .sessionExpired
  have hd := hb.trans (hbd.mono fun _ _ _ => trivial)
  have hreport : Report j _ := report_of_job
    ((job?_of_rest (reaches_allReport hd) hmove.mem hdone).symm.trans (hmove.work ▸ hj))
  have hold : u.number < started := by
    rw [hmove.stamp]
    exact hlt
  have hsame := hiso d (.ok (), 0) u _ (hab.trans hbd) hmove.mem hold hdone
  have hsettled := (delivered_page_eq_iff hd hmove.mem hdone (.ok (), 0)).1 hsame
  rw [hmove.state] at hsettled
  exact hopen _ hreport hsettled

omit [Zone] in
/-- A new login page takes every report on an account. -/
theorem open_login {j : Job} (hj : j = .signIn ∨ j = .signUp) (now : Nat) {m : Message}
    (hm : Report j m) : ¬ Settled now (.login .fresh) m := by
  intro hs
  cases hm with
  | signIn result => cases hs.1.2
  | signUp result => cases hs.1.2
  | _ => rcases hj with hj | hj <;> cases hj

omit [Zone] in
/-- A new admin page takes every report on its loads and dialogs. -/
theorem open_admin {j : Job} (hj : j = .load ∨ j = .tokenize ∨ j = .detokenize) (now : Nat)
    {m : Message} (hm : Report j m) : ¬ Settled now (.admin AdminPage.fresh.1) m := by
  intro hs
  cases hm with
  | load result => cases result <;> cases hs.1
  | tokenize result => cases hs.1.2
  | detokenize result => cases hs.2
  | _ => rcases hj with hj | hj | hj <;> cases hj

omit [Zone] in
/-- A page that deletes an id takes every report on that deletion. -/
theorem open_deleting {p : AdminPage} {id : String} (hid : id ∈ p.grid.deleting) (now : Nat)
    {m : Message} (hm : Report (.deletion id) m) : ¬ Settled now (.admin p) m := by
  intro hs
  cases hm with
  | deletion id result =>
    cases result with
    | ok u => exact hs.1 hid
    | error e => exact hs hid

theorem deleting_confirmed (id : String) (a b : Toasts) :
    id ∈ ((AdminPage.fresh.1.update 0 (.grid (.requestDelete id)) a).page.update 0
      (.grid .confirmDelete) b).page.grid.deleting :=
  List.mem_singleton_self id

/-- From a new login page the user can get to a page that takes the report of any old task. -/
theorem exists_open (hn : Machine.Numbered r) (hp : r.state.page = .login .fresh) (j : Job) :
    ∃ b, machine.Reaches Offers r b ∧ (∀ t ∈ r.tasks, t ∈ b.tasks) ∧
      ∀ m, Report j m → ¬ Settled 0 b.state.page m := by
  obtain ⟨b, hb, hpage, hold⟩ := reaches_admin hn hp
  cases j with
  | signIn => exact ⟨r, .refl, fun _ ht => ht, fun m hm => hp ▸ open_login (.inl rfl) 0 hm⟩
  | signUp => exact ⟨r, .refl, fun _ ht => ht, fun m hm => hp ▸ open_login (.inr rfl) 0 hm⟩
  | load => exact ⟨b, hb, hold, fun m hm => hpage ▸ open_admin (.inl rfl) 0 hm⟩
  | tokenize => exact ⟨b, hb, hold, fun m hm => hpage ▸ open_admin (.inr (.inl rfl)) 0 hm⟩
  | detokenize => exact ⟨b, hb, hold, fun m hm => hpage ▸ open_admin (.inr (.inr rfl)) 0 hm⟩
  | deletion id =>
    obtain ⟨h₁, hp₁⟩ := follows_admin hpage (m := .grid (.requestDelete id)) rfl
      (fun h => by cases h) (.ok (), 0)
    obtain ⟨h₂, hp₂⟩ := follows_admin hp₁ (m := .grid .confirmDelete) rfl
      (fun h => by cases h) (.ok (), 0)
    have h₁₂ := h₁.trans h₂
    exact ⟨_, hb.trans h₁₂.reaches, fun t ht => h₁₂.tasks t (hold t ht),
      fun m hm => hp₂ ▸ open_deleting (deleting_confirmed id _ _) 0 hm⟩

theorem reaches_signedOut_any (h : machine.Reaches (fun _ m => m.job? = none) (start timeout) r)
    (connected : Except Error Unit) (now : Nat) :
    machine.Reaches (fun _ m => m.job? = none) (start timeout) (signedOut connected now r) :=
  .next _ h fun _ _ he => by
    cases he
    rfl

/-- A task that is in flight when the user signs out can change a page that is shown later. -/
theorem not_isolates_of_mem (h : machine.Reaches (fun _ m => m.job? = none) (start timeout) r)
    (hoff : ∀ c m, Offers c m → offered c m) {t : Task Message} (ht : t ∈ r.tasks)
    (connected : Except Error Unit) (now : Nat) :
    ¬ Isolates offered r.started (signedOut connected now r) := by
  have hout := reaches_signedOut_any h connected now
  obtain ⟨j, hj, -⟩ := reaches_allReport h t ht
  obtain ⟨b, hb, hold, hopen⟩ := exists_open (r := signedOut connected now r)
    (reaches_numbered hout) (logout_page connected now r.state) j
  have hmem : t ∈ b.tasks := hold t (signedOut_tasks connected now r ▸ ht)
  have hlt : t.number < r.started := (reaches_numbered h).below t ht
  exact not_isolates hout (hb.mono hoff) hmem hlt hj hopen

theorem isolates_of_idle (hnone : r.tasks = []) (connected : Except Error Unit) (now : Nat) :
    Isolates offered r.started (signedOut connected now r) := by
  intro b env t m hb ht hlt hd
  obtain ⟨u, hu, -⟩ := hb.older t ht hlt
  rw [signedOut_tasks, hnone] at hu
  cases hu

/-- The report of a task from before the user signed out leaves the page that is shown as it is
exactly if it finds nothing to change there. And signing out shuts out all such reports, whatever
may follow, exactly if no task was in flight. -/
theorem late_reports_iff (h : machine.Reaches (fun _ m => m.job? = none) (start timeout) r)
    (hoff : ∀ c m, Offers c m → offered c m) (connected : Except Error Unit) (now : Nat) :
    (∀ b env t m, machine.Reaches offered (signedOut connected now r) b → t ∈ b.tasks →
      t.number < r.started → t.rest = .done m →
        ((machine.step (.deliver env t.number) b).state.page = b.state.page ↔
          Settled env.2 b.state.page m)) ∧
      (Isolates offered r.started (signedOut connected now r) ↔ r.tasks = []) := by
  refine ⟨fun b env t m hb ht _ hd => ?_, fun hiso => ?_, fun hnone => ?_⟩
  · have hall : machine.Reaches (fun _ _ => True) (start timeout) b :=
      ((reaches_signedOut_any h connected now).mono fun _ _ _ => trivial).trans
        (hb.mono fun _ _ _ => trivial)
    exact delivered_page_eq_iff hall ht hd env
  · exact List.eq_nil_iff_forall_not_mem.2 fun t ht =>
      not_isolates_of_mem h hoff ht connected now hiso
  · exact isolates_of_idle hnone connected now

end

/-- Signing out with a load in flight shuts out less than signing out after it. -/
theorem root_leaves_load_behind :
    ¬ Isolates Offers (machine.run (signingIn 0) (start 4000)).started
        (signedOut (.ok ()) 0 (machine.run (signingIn 0) (start 4000))) ∧
      Isolates Offers (machine.run (visiting []) (start 4000)).started
        (signedOut (.ok ()) 0 (machine.run (visiting []) (start 4000))) := by
  refine ⟨fun hiso => ?_, ?_⟩
  · have hidle := (late_reports_iff (Machine.reaches_run (by decide))
      (fun _ _ hm => hm) _ _).2.1 hiso
    have hbusy : (machine.run (signingIn 0) (start 4000)).tasks.isEmpty = false := by decide
    rw [hidle] at hbusy
    cases hbusy
  · exact (late_reports_iff (reaches_visiting.mono fun _ _ hm => hm.1) (fun _ _ hm => hm) _ _).2.2
      visiting_idle

/-- Signing out does not always shut out the reports of earlier tasks. -/
theorem logout_leaks_late_reports : ¬ ∀ timeout r connected now,
    machine.Reaches (fun _ m => m.job? = none) (start timeout) r →
      Isolates (fun _ m => m.job? = none) r.started (signedOut connected now r) := by
  intro hall
  have hrun : machine.Reaches (fun _ m => m.job? = none) (start 4000)
      (machine.run (signingIn 0) (start 4000)) := Machine.reaches_run (by decide)
  have hbusy : (machine.run (signingIn 0) (start 4000)).tasks ≠ [] := by
    intro hidle
    have hempty : (machine.run (signingIn 0) (start 4000)).tasks.isEmpty = false := by decide
    rw [hidle] at hempty
    cases hempty
  obtain ⟨t, ht⟩ := List.exists_mem_of_ne_nil _ hbusy
  exact not_isolates_of_mem hrun (fun _ _ hm => hm.1) ht (.ok ()) 0 (hall 4000 _ (.ok ()) 0 hrun)

end TokenConsole.Console
