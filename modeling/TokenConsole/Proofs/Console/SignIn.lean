import TokenConsole.Proofs.Console.Work

/-!
# Signing in

The admin page is opened by the report of a sign in. No such report is ever late: one sign in runs
at a time, it runs over the session that the console holds, and while the admin page is shown none
is in flight.
-/
namespace TokenConsole.Console

open TokenConsole.Accounts (User authenticate)
open TokenConsole.Calendar (Zone)
open TokenConsole.Gateway (Error Exchange Flow)

/-- Sign ins are counted right: by the dialog of the login page, and on the admin page there are
none. -/
def SignInsCounted (c : Console) (js : List (Option Job)) : Prop :=
  match c.page with
  | .login p => p.signIn.Carries (js.count (some .signIn))
  | .admin _ => js.count (some .signIn) = 0

theorem counted_login {c : Console} {js : List (Option Job)} {p : LoginPage}
    (hp : c.page = .login p) :
    c.SignInsCounted js ↔ p.signIn.Carries (js.count (some .signIn)) := by
  rw [SignInsCounted, hp]

theorem counted_admin {c : Console} {js : List (Option Job)} {p : AdminPage}
    (hp : c.page = .admin p) : c.SignInsCounted js ↔ js.count (some .signIn) = 0 := by
  rw [SignInsCounted, hp]

theorem jobs_login [Zone] (now : Nat) (toasts : Toasts) (p : LoginPage) (m : LoginPage.Message) :
    ((flows (p.update now m toasts).effects).map (·.map Message.login)).map machine.jobOf =
      (p.starts m).map some := by
  rw [← LoginPage.plans.jobs_eq (now, toasts), List.map_map]
  exact List.map_congr_left fun f _ => jobOf_login f

theorem jobs_admin [Zone] (now : Nat) (toasts : Toasts) (p : AdminPage) (m : AdminPage.Message) :
    ((flows (p.update now m toasts).effects).map (·.map Message.admin)).map machine.jobOf =
      (p.starts m).map some := by
  rw [← AdminPage.plans.jobs_eq (now, toasts), List.map_map]
  exact List.map_congr_left fun f _ => jobOf_admin f

theorem jobOf_firstLoad [Zone] : machine.jobOf ((Grid.loading.map .grid).map .admin) = some .load :=
  (jobOf_admin _).trans (Machine.jobOf_eq AdminPage.reports_load)

section

variable [Zone] {connected : Except Error Unit} {now : Nat} {c c' : Console} {m : Message}
  {fs : List (Flow Message)} {js as bs : List (Option Job)} {j : Job}

theorem Turn.counted_message (h : Turn connected now c m c' fs) (hoff : c.Offers m)
    (hs : c.SignInsCounted js) : c'.SignInsCounted (js ++ fs.map machine.jobOf) := by
  cases h with
  | outside _ _ =>
    rw [List.map_nil, List.append_nil]
    exact hs
  | @login p m hp _ =>
    rw [jobs_login]
    exact LoginPage.signIn_message ((counted_login hp).1 hs) now hoff.1 c.toasts
  | enter _ _ => cases hoff.1
  | @admin p m hp _ =>
    rw [jobs_admin]
    change (js ++ (p.starts m).map some).count (some .signIn) = 0
    rw [Machine.count_append_of_not_mem (p.signIn_not_mem_starts m)]
    exact (counted_admin hp).1 hs
  | lateLogin _ => simpa using hs
  | lateAdmin _ _ => simpa using hs
  | logout =>
    have hadmin : c.page.isAdmin = true := hoff.2 rfl
    cases hp : c.page with
    | login p =>
      rw [hp] at hadmin
      cases hadmin
    | admin p =>
      have hnone := (counted_admin hp).1 hs
      simp only [List.map_nil, List.append_nil]
      cases connected with
      | ok _ => exact hnone
      | error e => exact hnone

theorem Turn.counted_report (h : Turn connected now c m c' fs) (hm : m.job? = some j)
    (hs : c.SignInsCounted (as ++ some j :: bs)) :
    c'.SignInsCounted (as ++ bs ++ fs.map machine.jobOf) := by
  cases h with
  | outside hnone _ =>
    rw [hnone] at hm
    cases hm
  | @login p m hp _ =>
    rw [jobs_login, LoginPage.starts_of_report p hm, List.map_nil, List.append_nil]
    exact LoginPage.signIn_report ((counted_login hp).1 hs) now hm c.toasts
  | enter hp _ =>
    cases hm
    -- The sign in that opens the admin page is the only one, so none is left behind.
    have hone := ((counted_login hp).1 hs).le_one
    rw [Machine.count_cut_self] at hone
    change (as ++ bs ++ [machine.jobOf _]).count (some .signIn) = 0
    rw [jobOf_firstLoad, List.count_append]
    simp only [List.count_singleton, beq_iff_eq, Option.some.injEq, reduceCtorEq, if_false]
    omega
  | @admin p m hp _ =>
    have hne : j ≠ .signIn := fun he => AdminPage.Message.job?_ne_signIn m (he ▸ hm)
    have hzero := (counted_admin hp).1 hs
    rw [Machine.count_cut_of_ne hne] at hzero
    rw [jobs_admin]
    change (as ++ bs ++ (p.starts m).map some).count (some .signIn) = 0
    rw [Machine.count_append_of_not_mem (p.signIn_not_mem_starts m)]
    exact hzero
  | @lateLogin p m hp =>
    have hzero := (counted_admin hp).1 hs
    rw [List.map_nil, List.append_nil]
    refine (counted_admin hp).2 ?_
    rw [List.count_append, List.count_cons] at hzero
    rw [List.count_append]
    omega
  | @lateAdmin p m hp _ =>
    have hne : j ≠ .signIn := fun he => AdminPage.Message.job?_ne_signIn m (he ▸ hm)
    have hold := (counted_login hp).1 hs
    rw [Machine.count_cut_of_ne hne] at hold
    rw [List.map_nil, List.append_nil]
    exact (counted_login hp).2 hold
  | logout => cases hm

/-- Only a submission of its dialog starts a sign in. -/
theorem Turn.submit_of_signIn (h : Turn connected now c m c' fs) {f : Flow Message} (hf : f ∈ fs)
    (hj : machine.jobOf f = some .signIn) : m = .login (.signIn .submit) := by
  cases h with
  | login _ _ =>
    obtain ⟨g, hg, rfl⟩ := List.mem_map.1 hf
    rw [LoginPage.submit_of_signIn hg ((jobOf_login g).symm.trans hj)]
  | enter _ _ =>
    rw [List.mem_singleton.1 hf, jobOf_firstLoad] at hj
    cases hj
  | @admin p m _ _ =>
    have hmem : some Job.signIn ∈ ((flows (p.update now m c.toasts).effects).map
        (·.map Message.admin)).map machine.jobOf := List.mem_map.2 ⟨f, hf, hj⟩
    rw [jobs_admin] at hmem
    have hstarts : Job.signIn ∈ p.starts m := by simpa using hmem
    exact absurd hstarts (p.signIn_not_mem_starts m)
  | _ => cases hf

end

theorem keeps_signIns [Zone] : machine.Keeps Offers SignInsCounted where
  message env m c _ hs hoff := (turn_sound env.1 env.2 m c).counted_message hoff hs
  report env m _ c _ _ hm hs := (turn_sound env.1 env.2 m c).counted_report hm hs

/-! ### Runs -/

section

variable {r r' : Runtime Console Message} {e : Event (Except Error Unit × Nat) Message}
  {env : Except Error Unit × Nat} {m : Message}

theorem isAdmin_of_logout {connected : Except Error Unit} {now : Nat} {c c' : Console}
    (h : c' = c.logout connected now) : c'.page.isAdmin = false := by
  rw [h, logout_page]
  rfl

/-- As long as the kind of page stays, so do the page and the session. -/
theorem handle_same_page [Zone] (hm : m = .admin .logout → r.state.page.isAdmin = true)
    (hpage : (machine.handle env m r).state.page.isAdmin = r.state.page.isAdmin) :
    (machine.handle env m r).visit = r.visit ∧
      (machine.handle env m r).state.session = r.state.session := by
  rcases (turn_sound env.1 env.2 m r.state).page_cases with
    ⟨ht, hs, -⟩ | ⟨u, -, -, -, -, hl, ha⟩ | ⟨hout, hc, -⟩
  · exact ⟨Machine.handle_visit_same _ _ _ _ ht, hs⟩
  · rw [hl] at hpage
    exact absurd (ha.symm.trans hpage) (by decide)
  · have hlogin : (machine.handle env m r).state.page.isAdmin = false := isAdmin_of_logout hc
    rw [hlogin, hm hout] at hpage
    cases hpage

theorem handle_enter [Zone] (hlogin : r.state.page.isAdmin = false)
    (hadmin : (machine.handle env m r).state.page.isAdmin = true) :
    ∃ u : User, m = .login (.signIn (.submitted (.ok u))) ∧ u.admin = true ∧
      (machine.handle env m r).visit = r.visit + 1 ∧
      (machine.handle env m r).state.session = r.state.session := by
  rcases (turn_sound env.1 env.2 m r.state).page_cases with
    ⟨-, -, hsame⟩ | ⟨u, hm, hu, ht, hs, -, -⟩ | ⟨-, hc, -⟩
  · exact absurd (hlogin.symm.trans (hsame.symm.trans hadmin)) (by decide)
  · exact ⟨u, hm, hu, Machine.handle_visit_next _ _ _ _ ht, hs⟩
  · exact absurd ((isAdmin_of_logout hc).symm.trans hadmin) (by decide)

theorem step_same_page [Zone] (hs : machine.Step r e r') (hr : machine.AllReport r)
    (hoff : ∀ env m, e = .message env m → Offers r.state m)
    (hpage : r'.state.page.isAdmin = r.state.page.isAdmin) :
    r'.visit = r.visit ∧ r'.state.session = r.state.session := by
  cases hs with
  | @message env m =>
    exact handle_same_page (r := r.note (.message m))
      (fun hm => (hoff env m rfl).2 (hm ▸ rfl)) hpage
  | deliver ht hd =>
    exact handle_same_page (fun hm => absurd hm (not_logout_of_rest hr (by simp [ht]) hd)) hpage
  | _ => exact ⟨rfl, rfl⟩

/-- The admin page is opened by the report of a sign in that is in flight. -/
theorem step_enter [Zone] (hs : machine.Step r e r')
    (hoff : ∀ env m, e = .message env m → Offers r.state m)
    (hlogin : r.state.page.isAdmin = false) (hadmin : r'.state.page.isAdmin = true) :
    ∃ t ∈ r.tasks, ∃ u : User, t.rest = .done (.login (.signIn (.submitted (.ok u)))) ∧
      u.admin = true ∧ r'.visit = r.visit + 1 ∧ r'.state.session = r.state.session := by
  cases hs with
  | idle => exact absurd (hlogin.symm.trans hadmin) (by decide)
  | ask _ _ _ => exact absurd (hlogin.symm.trans hadmin) (by decide)
  | answer _ _ _ => exact absurd (hlogin.symm.trans hadmin) (by decide)
  | @message env m =>
    obtain ⟨u, hm, -⟩ := handle_enter (r := r.note (.message m)) hlogin hadmin
    have hnone := (hoff env m rfl).1
    rw [hm] at hnone
    cases hnone
  | @deliver env as bs t m ht hd =>
    obtain ⟨u, hm, hu, hv, hs⟩ := handle_enter
      (r := Runtime.note (.delivered t.toStamp m) { r with tasks := as ++ bs }) hlogin hadmin
    exact ⟨t, by simp [ht], u, by rw [hd, hm], hu, hv, hs⟩

/-! ### Sign ins in flight -/

/-- A sign in that is in flight belongs to the page that is shown. -/
structure Current (r : Runtime Console Message) (t : Task Message) : Prop where
  session : t.session = r.state.session
  visit : t.visit = r.visit
  origin : t.origin = some (.login (.signIn .submit))

variable {timeout : Nat}

theorem reaches_reports [Zone] (h : machine.Reaches Offers (start timeout) r) :
    machine.AllReport r ∧ r.state.SignInsCounted (machine.jobs r) :=
  h.accounts faithful keeps_signIns (fun t ht => by cases ht) rfl

theorem reaches_works [Zone] (h : machine.Reaches Offers (start timeout) r) :
    r.state.Equipped ∧ ∀ t ∈ r.tasks, ∃ j, machine.jobOf t.work = some j ∧ Serves j t.work :=
  h.works (fun env m c hc => (turn_sound env.1 env.2 m c).equipped hc)
    (fun env m c hc _ hf => (turn_sound env.1 env.2 m c).serves hc hf) ⟨rfl, rfl⟩
    fun t ht => by cases ht

/-- On the admin page no sign in is in flight. -/
theorem not_isAdmin_of_signIn [Zone] (h : machine.Reaches Offers (start timeout) r)
    {t : Task Message} (ht : t ∈ r.tasks) (hj : machine.jobOf t.work = some .signIn) :
    r.state.page.isAdmin = false := by
  cases hp : r.state.page with
  | login p => rfl
  | admin p =>
    have hzero := (counted_admin hp).1 (reaches_reports h).2
    exact absurd (List.mem_map.2 ⟨t, ht, hj⟩) (List.count_eq_zero.1 hzero)

theorem reaches_current [Zone] (h : machine.Reaches Offers (start timeout) r) :
    ∀ t ∈ r.tasks, machine.jobOf t.work = some .signIn → Current r t := by
  refine h.invariant
    (P := fun r => ∀ t ∈ r.tasks, machine.jobOf t.work = some .signIn → Current r t)
    (fun t ht => by cases ht) fun r e r' hr hr' hp hs hoff t' ht' hj => ?_
  obtain ⟨more, -, htasks⟩ := hs.tasks
  rcases htasks t' ht' with ⟨t, ht, hb⟩ | hnew
  · have hwork : machine.jobOf t.work = some .signIn := hb.work_eq ▸ hj
    have hold := hp t ht hwork
    -- A sign in is in flight on both sides of the event, so both show the login page.
    have hpage : r'.state.page.isAdmin = r.state.page.isAdmin :=
      (not_isAdmin_of_signIn hr' ht' hj).trans (not_isAdmin_of_signIn hr ht hwork).symm
    obtain ⟨hv, hses⟩ := step_same_page hs (reaches_reports hr).1 hoff hpage
    have hst := hb.stamp_eq
    refine ⟨?_, ?_, ?_⟩
    · rw [hses, ← hold.session, hst]
    · rw [hv, ← hold.visit, hst]
    · rw [← hold.origin, hst]
  · obtain ⟨env, m, ho, -, hw⟩ := hnew.source
    refine ⟨hnew.session_eq, hnew.visit_eq, ?_⟩
    rw [ho, (turn_sound env.1 env.2 m r.state).submit_of_signIn hw hj]

/-- A sign in that succeeds has heard two answers. -/
theorem answers_of_authenticate {login password : String} {xs : List Exchange} {u : User}
    (h : Flow.Hears (authenticate login password) xs (.done (.ok u))) :
    xs = [⟨.signIn login password, .ok u.id⟩, ⟨.isAdmin u.id, .ok u.admin⟩] := by
  unfold authenticate at h
  cases h with
  | @step _ _ reply xs _ h =>
    cases reply with
    | error e => cases h
    | ok id =>
      cases h with
      | @step _ _ reply xs _ h =>
        cases reply with
        | error e => cases h
        | ok admin =>
          cases h
          rfl

theorem answers_of_signIn {f : Flow Message} (hf : Serves .signIn f) {xs : List Exchange} {u : User}
    (h : Flow.Hears f xs (.done (.login (.signIn (.submitted (.ok u)))))) :
    ∃ login password,
      xs = [⟨.signIn login password, .ok u.id⟩, ⟨.isAdmin u.id, .ok u.admin⟩] := by
  cases hf with
  | login hf =>
    obtain ⟨p, rfl⟩ := hf
    rw [Flow.map_map, Flow.map_map] at h
    obtain ⟨rest, hrest, hx⟩ := h.of_map
    obtain ⟨result, rfl, he⟩ := Flow.map_eq_done hrest.symm
    cases he
    exact ⟨_, _, answers_of_authenticate hx⟩
  | admin hf => cases hf

/-- `s` is the sign in that has opened the admin page, with the answers that it got. -/
structure SignedIn (r : Runtime Console Message) (s : Stamp Message)
    (login password user : String) : Prop where
  origin : s.origin = some (.login (.signIn .submit))
  session : s.session = r.state.session
  visit : s.visit + 1 = r.visit
  answers : [Entry.answered s ⟨.signIn login password, .ok user⟩,
    .answered s ⟨.isAdmin user, .ok true⟩].Sublist r.log

theorem signedIn_of_rest [Zone] (h : machine.Reaches Offers (start timeout) r) {t : Task Message}
    (ht : t ∈ r.tasks) {u : User} (hd : t.rest = .done (.login (.signIn (.submitted (.ok u)))))
    (hu : u.admin = true) :
    Current r t ∧ ∃ login password, [Entry.answered t.toStamp ⟨.signIn login password, .ok u.id⟩,
      .answered t.toStamp ⟨.isAdmin u.id, .ok true⟩].Sublist r.log := by
  obtain ⟨j, hj, hrest⟩ := (reaches_reports h).1 t ht
  rw [hd] at hrest
  obtain rfl : Job.signIn = j := Option.some.inj hrest
  obtain ⟨k, hk, hserves⟩ := (reaches_works h).2 t ht
  obtain rfl : Job.signIn = k := Option.some.inj (hj.symm.trans hk)
  obtain ⟨xs, hx, hsub⟩ := h.heard (fun t ht => by cases ht) t ht
  rw [hd] at hx
  obtain ⟨login, password, rfl⟩ := answers_of_signIn hserves hx
  rw [hu] at hsub
  exact ⟨reaches_current h t ht hj, login, password, hsub⟩

/-- While the admin page is shown, the session that the console holds is that of a user who was
signed in over it and found to be an admin, by one submission on the login page before. -/
theorem admin_page_signed_in [Zone] (h : machine.Reaches Offers (start timeout) r)
    (hadmin : r.state.page.isAdmin = true) :
    ∃ s login password user, SignedIn r s login password user := by
  revert hadmin
  refine h.invariant (P := fun r => r.state.page.isAdmin = true → ∃ s login password user,
    SignedIn r s login password user) (fun ha => by cases ha)
    fun r e r' hr _ hp hs hoff hadmin => ?_
  obtain ⟨more, hlog⟩ := hs.log_extends
  have hgrow : r.log.Sublist r'.log := hlog ▸ List.sublist_append_left r.log more
  -- The sign in is found when the page opens; later the page keeps its session.
  cases hold : r.state.page.isAdmin with
  | true =>
    obtain ⟨s, login, password, user, hsigned⟩ := hp hold
    obtain ⟨hv, hses⟩ := step_same_page hs (reaches_reports hr).1 hoff (hadmin.trans hold.symm)
    exact ⟨s, login, password, user, hsigned.origin, hsigned.session.trans hses.symm,
      hsigned.visit.trans hv.symm, hsigned.answers.trans hgrow⟩
  | false =>
    obtain ⟨t, ht, u, hd, hu, hv, hses⟩ := step_enter hs hoff hold hadmin
    obtain ⟨hcur, login, password, hsub⟩ := signedIn_of_rest hr ht hd hu
    refine ⟨t.toStamp, login, password, u.id, hcur.origin, ?_, ?_, hsub.trans hgrow⟩
    · rw [hses, hcur.session]
    · rw [hv, hcur.visit]

end

/-- Answers to an admin who asks for tokens. -/
def answerAdmin (rows : List Gateway.Mapping) : (c : Gateway.Call) → c.Reply
  | .signIn _ _ => .ok "1"
  | .isAdmin _ => .ok true
  | .listMappings => .ok rows
  | _ => .error .sessionExpired

/-- Somebody signs in as an admin, which is the task of a number. -/
def signingIn (number : Nat) : List (Event (Except Error Unit × Nat) Message) :=
  [.message (.ok (), 0) (.login .openSignIn),
    .message (.ok (), 0) (.login (.signIn (.input "login" "root"))),
    .message (.ok (), 0) (.login (.signIn .submit)),
    .ask number, .answer number (answerAdmin []),
    .ask number, .answer number (answerAdmin []),
    .deliver (.ok (), 0) number]

theorem root_signed_in :
    (machine.run (signingIn 0) (start 4000)).state.page.isAdmin = true ∧
      ∃ s login password user,
        SignedIn (machine.run (signingIn 0) (start 4000)) s login password user :=
  have hrun : machine.Reaches (fun _ m => m.job? = none ∧ connects m = false) (start 4000)
      (machine.run (signingIn 0) (start 4000)) := Machine.reaches_run (by decide)
  ⟨by decide, admin_page_signed_in (hrun.mono fun _ _ h => ⟨h.1, fun hc => by simp [h.2] at hc⟩)
    (by decide)⟩

end TokenConsole.Console
