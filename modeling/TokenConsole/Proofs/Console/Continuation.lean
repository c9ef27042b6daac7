import TokenConsole.Proofs.Console.SignIn
import TokenConsole.Proofs.Machine.Progress

/-!
# What can follow

Runs that the user and the gateway can always bring about, whatever else is in flight: signing out,
and from a new login page to a new admin page.
-/
namespace TokenConsole.Console

open TokenConsole.Accounts (User authenticate)
open TokenConsole.Calendar (Zone)
open TokenConsole.Gateway (Error Flow)

section

variable [Zone] {r : Runtime Console Message} {timeout : Nat}

/-! ### Signing out -/

/-- The moment after the user has signed out. -/
def signedOut (connected : Except Error Unit) (now : Nat) (r : Runtime Console Message) :
    Runtime Console Message :=
  machine.step (.message (connected, now) (.admin .logout)) r

theorem signedOut_tasks (connected : Except Error Unit) (now : Nat) (r : Runtime Console Message) :
    (signedOut connected now r).tasks = r.tasks :=
  List.append_nil r.tasks

theorem reaches_signedOut (h : machine.Reaches Offers (start timeout) r)
    (hadmin : r.state.page.isAdmin = true) (connected : Except Error Unit) (now : Nat) :
    machine.Reaches Offers (start timeout) (signedOut connected now r) :=
  h.trans (.message ⟨rfl, fun _ => hadmin⟩ (connected, now))

theorem reaches_numbered {offered : Console → Message → Prop}
    (h : machine.Reaches offered (start timeout) r) : Machine.Numbered r :=
  h.numbered (Machine.numbered_begin _ _)

/-! ### Going on -/

/-- A run from `a` to `b` over one session, with all tasks of `a` still in flight. -/
structure Follows (a b : Runtime Console Message) : Prop where
  reaches : machine.Reaches Offers a b
  session : b.state.session = a.state.session
  tasks : ∀ t ∈ a.tasks, t ∈ b.tasks
  started : a.started ≤ b.started

theorem Follows.trans {a b c : Runtime Console Message} (h : Follows a b) (h' : Follows b c) :
    Follows a c :=
  ⟨h.reaches.trans h'.reaches, h'.session.trans h.session, fun t ht => h'.tasks t (h.tasks t ht),
    Nat.le_trans h.started h'.started⟩

theorem Follows.message {m : Message} (hoff : r.state.Offers m) {env : Except Error Unit × Nat}
    (hs : (machine.update env m r.state).1.session = r.state.session) :
    Follows r (machine.step (.message env m) r) :=
  ⟨.message hoff env, hs, fun _ ht => List.mem_append_left _ ht, Nat.le_add_right _ _⟩

/-- A message from outside for the login page that is shown. -/
theorem follows_login {p : LoginPage} (hp : r.state.page = .login p) {m : LoginPage.Message}
    (hm : m.job? = none) (env : Except Error Unit × Nat) :
    Follows r (machine.step (.message env (.login m)) r) ∧
      (machine.step (.message env (.login m)) r).state.page =
        .login (p.update env.2 m (.empty 0)).page := by
  have hu : machine.update env (.login m) r.state = _ := update_login env.1 env.2 hm hp
  have hoff : r.state.Offers (.login m) := ⟨hm, fun hc => by cases hc⟩
  refine ⟨.message hoff (by rw [hu]), ?_⟩
  change (machine.update env (.login m) r.state).1.page = _
  rw [hu, p.update_page_eq env.2 m (.empty 0) r.state.toasts]

/-- A message from outside for the admin page that is shown. -/
theorem follows_admin {p : AdminPage} (hp : r.state.page = .admin p) {m : AdminPage.Message}
    (hm : m.job? = none) (hne : m ≠ .logout) (env : Except Error Unit × Nat) :
    Follows r (machine.step (.message env (.admin m)) r) ∧
      (machine.step (.message env (.admin m)) r).state.page =
        .admin (p.update env.2 m r.state.toasts).page := by
  have hu : machine.update env (.admin m) r.state = _ := update_admin env.1 env.2 hne r.state
  rw [hp] at hu
  have hoff : r.state.Offers (.admin m) :=
    ⟨hm, fun hc => absurd (hc.symm.trans (connects_of_ne hne)) (by decide)⟩
  refine ⟨.message hoff (by rw [hu]), ?_⟩
  change (machine.update env (.admin m) r.state).1.page = _
  rw [hu]

/-! ### Signing in again -/

/-- The flow of a sign in, as the console runs it. -/
def signInFlow (login password : String) : Flow Message :=
  (((authenticate login password).map .submitted).map .signIn).map .login

/-- An accepted submission starts a sign in over the session that is held. -/
theorem signIn_starts {p : LoginPage} (hp : r.state.page = .login p) (he : p.Equipped)
    (ha : p.signIn.accepts = true) (env : Except Error Unit × Nat) :
    ∃ t ∈ (machine.step (.message env (.login (.signIn .submit))) r).tasks,
      t.session = r.state.session ∧ t.isWaiting = false ∧ r.started ≤ t.number ∧
      ∃ login password, t.rest = signInFlow login password := by
  have hu : machine.update env (.login (.signIn .submit)) r.state = _ :=
    update_login env.1 env.2 rfl hp
  have hmem : (p.signIn.submission.map .signIn).map .login ∈
      flows (machine.update env (.login (.signIn .submit)) r.state).2 := by
    rw [hu, flows_map, LoginPage.flows_update]
    simp [LoginPage.starts, LoginPage.flowOf, Dialog.Message.submits, ha]
  obtain ⟨t, ht, hrest, hw, hs, hle⟩ := Machine.handle_starts
    (r := r.note (.message (.login (.signIn .submit)))) hmem
  refine ⟨t, ht, ?_, hw, hle, Accounts.value p.signIn.form.payload "login",
    Accounts.value p.signIn.form.payload "password", ?_⟩
  · rw [hs, Machine.handle_state]
    change (machine.update env (.login (.signIn .submit)) r.state).1.session = r.state.session
    rw [hu]
  · rw [hrest, Dialog.submission, he.signIn]
    rfl

/-- On a new login page a sign in can be started, over the session that is held. -/
theorem reaches_signIn (hp : r.state.page = .login .fresh) :
    ∃ later p, Follows r later ∧ later.state.page = .login p ∧
      ∃ t ∈ later.tasks, t.session = r.state.session ∧ t.isWaiting = false ∧
        r.started ≤ t.number ∧ ∃ login password, t.rest = signInFlow login password := by
  obtain ⟨h₁, hp₁⟩ := follows_login hp (m := .openSignIn) rfl (.ok (), 0)
  obtain ⟨h₂, hp₂⟩ := follows_login hp₁ (m := .signIn (.input "login" "root")) rfl (.ok (), 0)
  obtain ⟨h₃, hp₃⟩ := follows_login hp₂ (m := .signIn .submit) rfl (.ok (), 0)
  have hequip := LoginPage.equipped_update (LoginPage.equipped_update LoginPage.equipped_fresh 0
    .openSignIn (.empty 0)) 0 (.signIn (.input "login" "root")) (.empty 0)
  obtain ⟨t, ht, hs, hw, hle, hrest⟩ := signIn_starts hp₂ hequip (by decide) (.ok (), 0)
  have h₁₂ := h₁.trans h₂
  exact ⟨_, _, h₁₂.trans h₃, hp₃, t, ht, hs.trans h₁₂.session, hw,
    Nat.le_trans h₁₂.started hle, hrest⟩

theorem update_enter {c : Console} {p : LoginPage} (hp : c.page = .login p) {u : User}
    (hu : u.admin = true) (connected : Except Error Unit) (now : Nat) :
    (c.update connected now (.login (.signIn (.submitted (.ok u))))).1.page =
        .admin AdminPage.fresh.1 := by
  have huser := p.user_of_admin now c.toasts hu
  simp [update, hp, huser, hu]

/-- From a new login page an admin can sign in, whatever else is in flight. -/
theorem reaches_admin (hn : Machine.Numbered r) (hp : r.state.page = .login .fresh) :
    ∃ later, machine.Reaches Offers r later ∧ later.state.page = .admin AdminPage.fresh.1 ∧
      ∀ t ∈ r.tasks, t ∈ later.tasks := by
  obtain ⟨b, p, hb, hpb, t, ht, -, -, hle, login, password, hrest⟩ := reaches_signIn hp
  have hnb := hb.reaches.numbered hn
  obtain ⟨d, u, hbd, hmove, hdone⟩ :=
    Machine.exists_finished machine Offers hnb ht (answerAdmin [])
  have hreport : u.rest = .done (.login (.signIn (.submitted (.ok ⟨"1", true⟩)))) := by
    rw [hdone, hrest]
    rfl
  obtain ⟨hstate, hothers⟩ :=
    Machine.deliver_mem (M := machine) (hbd.numbered hnb) hmove.mem hreport (.ok (), 0)
  refine ⟨machine.step (.deliver (.ok (), 0) u.number) d,
    hb.reaches.trans (hbd.trans (Machine.reaches_deliver _ _)), ?_, fun v hv => ?_⟩
  · rw [hstate, hmove.state]
    exact update_enter hpb rfl (.ok ()) 0
  · have hlt := hn.below v hv
    have hne : v.number ≠ t.number := by omega
    refine hothers v (hmove.others v (hb.tasks v hv) hne) ?_
    rw [hmove.stamp]
    exact hne

end

/-! ### A visit -/

/-- An admin signs in and sees the first rows. -/
def visiting (rows : List Gateway.Mapping) : List (Event (Except Error Unit × Nat) Message) :=
  signingIn 0 ++ [.ask 1, .answer 1 (answerAdmin rows), .deliver (.ok (), 0) 1]

theorem reaches_visiting [Zone] : machine.Reaches Offers (start 4000)
    (machine.run (visiting []) (start 4000)) := by
  have hrun : machine.Reaches (fun _ m => m.job? = none ∧ connects m = false) (start 4000)
      (machine.run (visiting []) (start 4000)) := Machine.reaches_run (by decide)
  exact hrun.mono fun c m hm => ⟨hm.1, fun hc => absurd (hc.symm.trans hm.2) (by decide)⟩

theorem visiting_idle : (machine.run (visiting []) (start 4000)).tasks = [] :=
  List.isEmpty_iff.1 (by decide)

end TokenConsole.Console
