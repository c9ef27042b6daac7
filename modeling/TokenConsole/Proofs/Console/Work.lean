import TokenConsole.Console
import TokenConsole.Proofs.Page.Admin
import TokenConsole.Proofs.Page.Login

/-!
# The console at work

The console with the tasks that its pages have started. `Turn` lists all that handling a message
can do. The tasks outlive the pages that started them, and their reports carry no mark of that page.
-/
namespace TokenConsole

open TokenConsole.Accounts (User)
open TokenConsole.Calendar (Zone)
open TokenConsole.Gateway (Error Flow)

def Page.isAdmin : Page → Bool
  | .login _ => false
  | .admin _ => true

namespace Console

/-- The job whose end a message reports. -/
def Message.job? : Message → Option Job
  | .login m => m.job?
  | .admin m => m.job?
  | _ => none

/-- The console, with the result of opening a session and the time around it. A sign in puts the
admin page in place of the login page, and signing out a new login page in place of any page. -/
def machine [Zone] : Machine (Except Error Unit × Nat) Console Message where
  update env m c := c.update env.1 env.2 m
  session := (·.session)
  turns m c c' := connects m || c.page.isAdmin != c'.page.isAdmin
  job? := Message.job?

def start [Zone] (toastTimeout : Nat) : Runtime Console Message :=
  machine.begin (fresh toastTimeout) []

/-- What comes from outside are no reports, and signing out is offered on the admin page only. -/
def Offers (c : Console) (m : Message) : Prop :=
  m.job? = none ∧ (connects m = true → c.page.isAdmin = true)

/-- All that handling a message can do to the console, and the flows that it starts. -/
inductive Turn [Zone] (connected : Except Error Unit) (now : Nat) (c : Console) :
    Message → Console → List (Flow Message) → Prop where
  | outside {m : Message} {toasts : Toasts} : m.job? = none → connects m = false →
      Turn connected now c m { c with toasts } []
  | login {p : LoginPage} {m : LoginPage.Message} : c.page = .login p →
      (p.update now m c.toasts).user.any (·.admin) = false →
      Turn connected now c (.login m)
        { c with
          page := .login (p.update now m c.toasts).page
          toasts := (p.update now m c.toasts).toasts }
        ((flows (p.update now m c.toasts).effects).map (·.map .login))
  | enter {p : LoginPage} {u : User} {toasts : Toasts} : c.page = .login p → u.admin = true →
      Turn connected now c (.login (.signIn (.submitted (.ok u))))
        { c with page := .admin AdminPage.fresh.1, toasts } [(Grid.loading.map .grid).map .admin]
  | admin {p : AdminPage} {m : AdminPage.Message} : c.page = .admin p → m ≠ .logout →
      Turn connected now c (.admin m)
        { c with
          page := .admin (p.update now m c.toasts).page
          toasts := (p.update now m c.toasts).toasts }
        ((flows (p.update now m c.toasts).effects).map (·.map .admin))
  | lateLogin {p : AdminPage} {m : LoginPage.Message} : c.page = .admin p →
      Turn connected now c (.login m) c []
  | lateAdmin {p : LoginPage} {m : AdminPage.Message} : c.page = .login p → m ≠ .logout →
      Turn connected now c (.admin m) c []
  | logout : Turn connected now c (.admin .logout) (c.logout connected now) []

theorem update_login [Zone] (connected : Except Error Unit) (now : Nat) {m : LoginPage.Message}
    (hm : m.job? = none) {c : Console} {p : LoginPage} (hp : c.page = .login p) :
    c.update connected now (.login m) =
      ({ c with
          page := .login (p.update now m c.toasts).page
          toasts := (p.update now m c.toasts).toasts },
        (p.update now m c.toasts).effects.map (·.map .login)) := by
  have hnone : (p.update now m c.toasts).user = none := by
    refine Option.eq_none_iff_forall_ne_some.2 fun u hu => ?_
    rw [LoginPage.user_eq_some _ _ _ hu] at hm
    cases hm
  simp [update, hp, hnone]

theorem update_admin [Zone] (connected : Except Error Unit) (now : Nat) {m : AdminPage.Message}
    (hm : m ≠ .logout) (c : Console) : c.update connected now (.admin m) =
      match c.page with
      | .login _ => (c, [])
      | .admin p =>
        ({ c with
            page := .admin (p.update now m c.toasts).page
            toasts := (p.update now m c.toasts).toasts },
          (p.update now m c.toasts).effects.map (·.map .admin)) := by
  cases m with
  | logout => exact absurd rfl hm
  | _ => rfl

theorem turn_sound [Zone] (connected : Except Error Unit) (now : Nat) (m : Message) (c : Console) :
    Turn connected now c m (c.update connected now m).1 (flows (c.update connected now m).2) := by
  cases m with
  | interrupt => exact .outside rfl rfl
  | toast m => exact .outside rfl rfl
  | login m =>
    cases hp : c.page with
    | admin p =>
      simp only [update, hp]
      exact .lateLogin hp
    | login p =>
      by_cases ha : (p.update now m c.toasts).user.any (·.admin) = true
      · obtain ⟨u, hu, hadmin⟩ := (Option.any_eq_true _ _).1 ha
        obtain rfl := LoginPage.user_eq_some _ _ _ hu
        simp only [update, hp, ha, if_true]
        exact .enter hp hadmin
      · simp only [update, hp, ha, Bool.false_eq_true, if_false, flows_map]
        exact .login hp (by simpa using ha)
  | admin m =>
    by_cases hm : m = .logout
    · rw [hm]
      exact .logout
    · rw [update_admin connected now hm]
      cases hp : c.page with
      | login p => exact .lateAdmin hp hm
      | admin p =>
        simp only [flows_map]
        exact .admin hp hm

theorem connects_of_ne {m : AdminPage.Message} (hm : m ≠ .logout) :
    connects (.admin m) = false := by
  cases m with
  | logout => exact absurd rfl hm
  | _ => rfl

@[simp] theorem logout_page (connected : Except Error Unit) (now : Nat) (c : Console) :
    (c.logout connected now).page = .login .fresh := by
  cases connected <;> rfl

/-- A message leaves the kind of page, or a sign in opens the admin page, or the user signs out. -/
theorem Turn.page_cases [Zone] {connected : Except Error Unit} {now : Nat} {c c' : Console}
    {m : Message} {fs : List (Flow Message)} (h : Turn connected now c m c' fs) :
    (machine.turns m c c' = false ∧ c'.session = c.session ∧
      c'.page.isAdmin = c.page.isAdmin) ∨
    (∃ u : User, m = .login (.signIn (.submitted (.ok u))) ∧ u.admin = true ∧
      machine.turns m c c' = true ∧ c'.session = c.session ∧ c.page.isAdmin = false ∧
      c'.page.isAdmin = true) ∨
    (m = .admin .logout ∧ c' = c.logout connected now ∧ fs = []) := by
  cases h with
  | outside _ hc => exact .inl ⟨by simp [machine, hc], rfl, rfl⟩
  | login hp _ => exact .inl ⟨by simp [machine, connects, hp, Page.isAdmin], rfl, by rw [hp]; rfl⟩
  | enter hp hu =>
    exact .inr (.inl ⟨_, rfl, hu, by simp [machine, connects, hp, Page.isAdmin], rfl,
      by rw [hp]; rfl, rfl⟩)
  | admin hp hm =>
    exact .inl ⟨by simp [machine, connects_of_ne hm, hp, Page.isAdmin], rfl, by rw [hp]; rfl⟩
  | lateLogin hp => exact .inl ⟨by simp [machine, connects], rfl, rfl⟩
  | lateAdmin hp hm => exact .inl ⟨by simp [machine, connects_of_ne hm], rfl, rfl⟩
  | logout => exact .inr (.inr ⟨rfl, rfl, rfl⟩)

/-! ### What the flows are -/

theorem jobOf_login [Zone] (f : Flow LoginPage.Message) :
    machine.jobOf (f.map .login) = LoginPage.machine.jobOf f := by
  rw [Machine.jobOf, Flow.outcome_map]
  rfl

theorem jobOf_admin [Zone] (f : Flow AdminPage.Message) :
    machine.jobOf (f.map .admin) = AdminPage.machine.jobOf f := by
  rw [Machine.jobOf, Flow.outcome_map]
  rfl

/-- The flows that serve a job are those of the pages. -/
inductive Serves : Job → Flow Message → Prop where
  | login {j : Job} {f : Flow LoginPage.Message} : LoginPage.Serves j f → Serves j (f.map .login)
  | admin {j : Job} {f : Flow AdminPage.Message} : AdminPage.Serves j f → Serves j (f.map .admin)

/-- The dialogs of the page that is shown run the actions that they are there for. -/
def Equipped (c : Console) : Prop :=
  match c.page with
  | .login p => p.Equipped
  | .admin p => p.Equipped

theorem equipped_login {c : Console} {p : LoginPage} (hp : c.page = .login p) :
    c.Equipped ↔ p.Equipped := by
  rw [Equipped, hp]

theorem equipped_admin {c : Console} {p : AdminPage} (hp : c.page = .admin p) :
    c.Equipped ↔ p.Equipped := by
  rw [Equipped, hp]

section

variable [Zone] {connected : Except Error Unit} {now : Nat} {c c' : Console} {m : Message}
  {fs : List (Flow Message)} {f : Flow Message}

theorem Turn.reports (h : Turn connected now c m c' fs) (hf : f ∈ fs) :
    ∃ j, machine.Reports j f := by
  cases h with
  | @login p m _ _ =>
    obtain ⟨g, hg, rfl⟩ := List.mem_map.1 hf
    obtain ⟨j, hj⟩ := LoginPage.plans.faithful (now, c.toasts) m p g hg
    exact ⟨j, (Flow.ends_map _ _ _).2 hj⟩
  | enter _ _ =>
    rw [List.mem_singleton.1 hf]
    exact ⟨.load, (Flow.ends_map _ _ _).2 AdminPage.reports_load⟩
  | @admin p m _ _ =>
    obtain ⟨g, hg, rfl⟩ := List.mem_map.1 hf
    obtain ⟨j, hj⟩ := AdminPage.plans.faithful (now, c.toasts) m p g hg
    exact ⟨j, (Flow.ends_map _ _ _).2 hj⟩
  | _ => cases hf

theorem Turn.equipped (h : Turn connected now c m c' fs) (he : c.Equipped) : c'.Equipped := by
  cases h with
  | outside _ _ => exact he
  | login hp _ => exact LoginPage.equipped_update ((equipped_login hp).1 he) _ _ _
  | enter _ _ => exact AdminPage.equipped_fresh
  | admin hp _ => exact AdminPage.equipped_update ((equipped_admin hp).1 he) _ _ _
  | lateLogin _ => exact he
  | lateAdmin _ _ => exact he
  | logout =>
    cases connected with
    | ok _ => exact ⟨rfl, rfl⟩
    | error e => exact ⟨rfl, rfl⟩

theorem Turn.serves (h : Turn connected now c m c' fs) (he : c.Equipped) (hf : f ∈ fs) :
    ∃ j, machine.jobOf f = some j ∧ Serves j f := by
  cases h with
  | login hp _ =>
    obtain ⟨g, hg, rfl⟩ := List.mem_map.1 hf
    obtain ⟨j, hj, hs⟩ := LoginPage.serves_update ((equipped_login hp).1 he) _ _ _ hg
    exact ⟨j, (jobOf_login g).trans hj, .login hs⟩
  | enter _ _ =>
    rw [List.mem_singleton.1 hf]
    exact ⟨.load, (jobOf_admin _).trans (Machine.jobOf_eq AdminPage.reports_load), .admin rfl⟩
  | admin hp _ =>
    obtain ⟨g, hg, rfl⟩ := List.mem_map.1 hf
    obtain ⟨j, hj, hs⟩ := AdminPage.serves_update ((equipped_admin hp).1 he) _ _ _ hg
    exact ⟨j, (jobOf_admin g).trans hj, .admin hs⟩
  | _ => cases hf

end

/-- No page hands over the wish to sign out. -/
theorem not_logout_of_rest [Zone] {r : Runtime Console Message} (hr : machine.AllReport r)
    {t : Task Message} (ht : t ∈ r.tasks) {m : Message} (hd : t.rest = .done m) :
    m ≠ .admin .logout := by
  obtain ⟨j, -, hrest⟩ := hr t ht
  rw [hd] at hrest
  rintro rfl
  cases hrest

theorem faithful [Zone] : machine.Faithful :=
  fun env m c _ hf => (turn_sound env.1 env.2 m c).reports hf

end Console

end TokenConsole
