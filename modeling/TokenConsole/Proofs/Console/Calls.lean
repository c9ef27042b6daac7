import TokenConsole.Proofs.Console.SignIn
import TokenConsole.Proofs.Grid.History
import TokenConsole.Proofs.Machine.Trail
import TokenConsole.Proofs.Page.Calls

/-!
# What the console calls the gateway for

Whatever messages come and whatever the gateway answers, no call has arguments that were not checked
before. Each call goes back to a message that the console handled: the submission of a dialog with
all that this dialog asks for, or the confirmation of a deletion that was asked for and not taken
back.
-/
namespace TokenConsole.Console

open TokenConsole.Accounts (User)
open TokenConsole.Calendar (Zone)
open TokenConsole.Gateway (Call Error Exchange Flow)

/-- A message that the console handled. -/
abbrev Handled := Handling (Except Error Unit × Nat) Console Message

/-! ### The dialogs that are shown -/

/-- The dialogs of the page that is shown have the fields that they were declared with. -/
def Declared (c : Console) : Prop :=
  match c.page with
  | .login p => p.Declared
  | .admin p => p.Declared

theorem declared_login {c : Console} {p : LoginPage} (hp : c.page = .login p) :
    c.Declared ↔ p.Declared := by
  rw [Declared, hp]

theorem declared_admin {c : Console} {p : AdminPage} (hp : c.page = .admin p) :
    c.Declared ↔ p.Declared := by
  rw [Declared, hp]

section

variable [Zone] {connected : Except Error Unit} {now : Nat} {c c' : Console} {m : Message}
  {fs : List (Flow Message)}

theorem Turn.declared (h : Turn connected now c m c' fs) (hd : c.Declared) : c'.Declared := by
  cases h with
  | outside _ _ => exact hd
  | login hp _ => exact LoginPage.declared_update ((declared_login hp).1 hd) _ _ _
  | enter _ _ => exact AdminPage.declared_fresh
  | admin hp _ => exact AdminPage.declared_update ((declared_admin hp).1 hd) _ _ _
  | lateLogin _ => exact hd
  | lateAdmin _ _ => exact hd
  | logout =>
    refine (declared_login (p := .fresh) ?_).2 LoginPage.declared_fresh
    exact logout_page _ _ _

/-- What holds of a call that comes from a message to the console, after the answers `xs`. -/
def Warrants (c : Console) (m : Message) (xs : List Exchange) (call : Call) : Prop :=
  (∃ p m', c.page = .login p ∧ m = .login m' ∧ p.Warrants m' xs call) ∨
    (∃ p m', c.page = .admin p ∧ m = .admin m' ∧ p.Warrants m' call) ∨ call = .listMappings

theorem Turn.warrants (h : Turn connected now c m c' fs) (he : c.Equipped) (hd : c.Declared)
    {f : Flow Message} (hf : f ∈ fs) {xs : List Exchange} {call : Call} (hc : f.Asks xs call) :
    c.Warrants m xs call := by
  cases h with
  | @login p m hp _ =>
    obtain ⟨g, hg, rfl⟩ := List.mem_map.1 hf
    exact .inl ⟨p, m, hp, rfl, LoginPage.warrants_of_asks ((equipped_login hp).1 he)
      ((declared_login hp).1 hd) hg hc.of_map⟩
  | enter _ _ =>
    rw [List.mem_singleton.1 hf] at hc
    exact .inr (.inr (Flow.asks_ask hc.of_map.of_map.of_map).2)
  | @admin p m hp _ =>
    obtain ⟨g, hg, rfl⟩ := List.mem_map.1 hf
    exact .inr (.inl ⟨p, m, hp, rfl, AdminPage.warrants_of_asks ((equipped_admin hp).1 he)
      ((declared_admin hp).1 hd) hg hc.of_map⟩)
  | _ => cases hf

/-! ### Deletions that were asked for -/

/-- An id waits to be confirmed because it was asked for just now, or because it waited before. -/
theorem update_confirming {p' : AdminPage} (hp' : (c.update connected now m).1.page = .admin p')
    {id : String} (hid : p'.grid.confirming = some id) :
    ∃ p, c.page = .admin p ∧ machine.turns m c (c.update connected now m).1 = false ∧
      ((m = .admin (.grid (.requestDelete id)) ∧ p.grid.isDeleting id = false) ∨
        (p.grid.confirming = some id ∧ m ≠ .admin (.grid .cancelDelete) ∧
          m ≠ .admin (.grid .confirmDelete) ∧
          ∀ k, m = .admin (.grid (.requestDelete k)) → p.grid.isDeleting k = true)) := by
  cases m with
  | interrupt => exact ⟨p', hp', by simp [machine, connects, update], .inr ⟨hid, by simp⟩⟩
  | toast m => exact ⟨p', hp', by simp [machine, connects, update], .inr ⟨hid, by simp⟩⟩
  | login m =>
    cases hp : c.page with
    | admin p =>
      simp only [update, hp] at hp'
      obtain rfl : p = p' := Page.admin.inj hp'
      exact ⟨p, rfl, by simp [machine, connects, update, hp], .inr ⟨hid, by simp⟩⟩
    | login p =>
      -- A page that a sign in has just opened has nothing to confirm.
      simp only [update, hp] at hp'
      split at hp'
      · cases hp'
        cases hid
      · cases hp'
  | admin m =>
    by_cases hm : m = .logout
    · subst hm
      change (c.logout connected now).page = _ at hp'
      rw [logout_page] at hp'
      cases hp'
    · rw [update_admin connected now hm] at hp' ⊢
      cases hp : c.page with
      | login p =>
        rw [hp] at hp'
        cases hp.symm.trans hp'
      | admin p =>
        rw [hp] at hp'
        cases hp'
        refine ⟨p, rfl, by simp [machine, connects_of_ne hm, hp, Page.isAdmin], ?_⟩
        rcases AdminPage.confirming_update hid with
          ⟨rfl, hfree⟩ | ⟨hold, hcancel, hconfirm, hrequest⟩
        · exact .inl ⟨rfl, hfree⟩
        · exact .inr ⟨hold, fun he => hcancel (Message.admin.inj he),
            fun he => hconfirm (Message.admin.inj he),
            fun k he => hrequest k (Message.admin.inj he)⟩

end

/-- The message asks for the deletion of an id, and the page takes it up. -/
def Requests (x : Handled) (id : String) : Prop :=
  x.message = .admin (.grid (.requestDelete id)) ∧
    ∃ p, x.before.state.page = .admin p ∧ p.grid.isDeleting id = false

/-- The message decides on the deletion that was asked for, or asks for another one. -/
def Settles (x : Handled) : Prop :=
  x.message = .admin (.grid .cancelDelete) ∨ x.message = .admin (.grid .confirmDelete) ∨
    ∃ id, Requests x id

/-- The last deletion that was asked for is that of `id`, on the page of the visit, and nothing was
decided on it. -/
def AskedFor (tr : List Handled) (visit : Nat) (id : String) : Prop :=
  ∃ earlier x later, tr = earlier ++ x :: later ∧ Requests x id ∧ x.before.visit = visit ∧
    ∀ y ∈ later, ¬ Settles y

/-- What waits to be confirmed was asked for. -/
def Confirming (tr : List Handled) (r : Runtime Console Message) : Prop :=
  ∀ p id, r.state.page = .admin p → p.grid.confirming = some id → AskedFor tr r.visit id

theorem Confirming.handle [Zone] {tr : List Handled} {r : Runtime Console Message}
    (h : Confirming tr r) {x : Handled} (hx : Machine.Continues r x) :
    Confirming (tr ++ [x]) (machine.handle x.env x.message x.before) := by
  intro p' id hp' hid
  obtain ⟨p, hp, hturn, hcases⟩ := update_confirming hp' hid
  have hvisit : (machine.handle x.env x.message x.before).visit = r.visit :=
    (Machine.handle_visit_same _ _ _ _ hturn).trans hx.visit
  rw [hvisit]
  rcases hcases with ⟨hm, hfree⟩ | ⟨hold, hcancel, hconfirm, hrequest⟩
  · exact ⟨tr, x, [], rfl, ⟨hm, p, hp, hfree⟩, hx.visit, fun y hy => by cases hy⟩
  · obtain ⟨earlier, q, later, rfl, hq, hv, hlater⟩ := h p id (hx.state ▸ hp) hold
    refine ⟨earlier, q, later ++ [x], by simp, hq, hv, fun y hy => ?_⟩
    rcases List.mem_append.1 hy with hy | hy
    · exact hlater y hy
    · rw [List.mem_singleton.1 hy]
      rintro (he | he | ⟨k, he, p₂, hp₂, hfree⟩)
      · exact hcancel he
      · exact hconfirm he
      · cases hp.symm.trans hp₂
        rw [hrequest k he] at hfree
        cases hfree

theorem confirming_run [Zone] (timeout : Nat)
    (events : List (Event (Except Error Unit × Nat) Message)) :
    Confirming (Machine.trail machine events (start timeout))
      (machine.run events (start timeout)) := by
  induction events using List.reverseRecOn with
  | nil => exact fun p id hp => by cases hp
  | append_singleton events e ih =>
    rw [Machine.trail_snoc, Machine.run_snoc]
    have hm := machine.move_sound e (machine.run events (start timeout))
    generalize Machine.handling? e (machine.run events (start timeout)) = x? at hm ⊢
    generalize machine.step e (machine.run events (start timeout)) = r' at hm ⊢
    cases hm with
    | handle hx => exact ih.handle hx
    | _ =>
      rw [Option.toList_none, List.append_nil]
      exact ih

/-! ### Runs -/

theorem kept_run [Zone] (timeout : Nat) (events : List (Event (Except Error Unit × Nat) Message)) :
    (machine.run events (start timeout)).state.Equipped ∧
      (machine.run events (start timeout)).state.Declared := by
  have hrun : machine.Reaches (fun _ _ => True) (start timeout)
      (machine.run events (start timeout)) := Machine.reaches_run fun _ _ => trivial
  have hequipped : (machine.run events (start timeout)).state.Equipped :=
    hrun.kept (fun env m c hc => (turn_sound env.1 env.2 m c).equipped hc) LoginPage.equipped_fresh
  have hdeclared : (machine.run events (start timeout)).state.Declared :=
    hrun.kept (fun env m c hc => (turn_sound env.1 env.2 m c).declared hc) LoginPage.declared_fresh
  exact ⟨hequipped, hdeclared⟩

/-- Each call goes back to a message that the console handled, with a warrant from the page that was
shown; and a deletion also to the wish for it, which came before and still stood. -/
theorem calls_are_warranted [Zone] (timeout : Nat)
    (events : List (Event (Except Error Unit × Nat) Message)) {before more : List (Entry Message)}
    {s : Stamp Message} {c : Call}
    (h : (machine.run events (start timeout)).log = before ++ .asked s c :: more) :
    ∃ past x later f xs,
      Machine.trail machine events (start timeout) = past ++ x :: later ∧
      x.Launches machine s f ∧ about s.number before = talk s xs ∧
      x.before.state.Warrants x.message xs c ∧
      ∀ id, c = .deleteMapping id → AskedFor past x.before.visit id := by
  have htraced : machine.Traced (Machine.trail machine events (start timeout))
      (machine.run events (start timeout)) := Machine.traced_run events (fresh timeout)
  obtain ⟨x, hx, f, xs, hlaunch, hasks, habout⟩ := htraced.called before s c more h
  obtain ⟨past, later, htrail⟩ := List.append_of_mem hx
  obtain ⟨es, e, hpast, hhandling⟩ := Machine.trail_split htrail
  have hcont := Machine.continues_of_handling machine hhandling
  obtain ⟨he, hd⟩ := kept_run timeout es
  rw [← hcont.state] at he hd
  have hwarrants : x.before.state.Warrants x.message xs c :=
    (turn_sound x.env.1 x.env.2 x.message x.before.state).warrants he hd hlaunch.work hasks
  refine ⟨past, x, later, f, xs, htrail, hlaunch, habout, hwarrants, ?_⟩
  rintro id rfl
  rcases hwarrants with ⟨p, m, -, -, hfalse⟩ | ⟨p, m, hp, -, -, hid⟩ | hload
  · cases hfalse
  · rw [← hpast, hcont.visit]
    exact confirming_run timeout es p id (hcont.state ▸ hp) hid
  · cases hload

/-- An admin deletes the first row that is listed. -/
def deletingFirst : List (Event (Except Error Unit × Nat) Message) :=
  signingIn 0 ++ [.ask 1, .answer 1 (answerAdmin [Grid.bareRow "a"]), .deliver (.ok (), 0) 1,
    .message (.ok (), 0) (.admin (.grid (.requestDelete "a"))),
    .message (.ok (), 0) (.admin (.grid .confirmDelete)), .ask 2]

theorem deletion_is_warranted :
    ∃ s, (machine.run deletingFirst (start 4000)).log =
        (machine.run deletingFirst (start 4000)).log.dropLast ++ [.asked s (.deleteMapping "a")] ∧
      ∃ past x later, Machine.trail machine deletingFirst (start 4000) = past ++ x :: later ∧
        s.origin = some x.message ∧ AskedFor past x.before.visit "a" := by
  have hlog : (machine.run deletingFirst (start 4000)).log =
      (machine.run deletingFirst (start 4000)).log.dropLast ++
        [.asked ⟨2, some (.admin (.grid .confirmDelete)), 1, 1⟩ (.deleteMapping "a")] := rfl
  obtain ⟨past, x, later, f, xs, htrail, hlaunch, -, -, hasked⟩ :=
    calls_are_warranted 4000 deletingFirst hlog
  exact ⟨_, hlog, past, x, later, htrail, hlaunch.origin, hasked "a" rfl⟩

end TokenConsole.Console
