import TokenConsole.Proofs.Console.Continuation

/-!
# Signing out

Signing out is to end the session: no later call goes over it. The exact condition is that the new
session could be opened and that every task in flight has made its call. If no new session can be
opened, the console shows the login page over the old one, and the next sign in goes over it.
-/
namespace TokenConsole.Console

open TokenConsole.Calendar (Zone)
open TokenConsole.Gateway (Call Error Flow)

theorem Turn.session_le [Zone] {connected : Except Error Unit} {now : Nat} {c c' : Console}
    {m : Message} {fs : List (Flow Message)} (h : Turn connected now c m c' fs) :
    c.session ≤ c'.session := by
  rcases h.page_cases with ⟨-, hs, -⟩ | ⟨u, -, -, -, hs, -, -⟩ | ⟨-, rfl, -⟩
  · exact Nat.le_of_eq hs.symm
  · exact Nat.le_of_eq hs.symm
  · cases connected with
    | ok _ => exact Nat.le_succ c.session
    | error e => exact Nat.le_refl c.session

theorem advances [Zone] : machine.Advances := fun env m c => (turn_sound env.1 env.2 m c).session_le

/-- Every job but a sign in takes one call at most. -/
theorem brief_of_serves {j : Job} {f : Flow Message} (h : Serves j f) (hj : j ≠ .signIn) :
    f.Brief := by
  cases h with
  | login h => exact (LoginPage.brief_of_serves h hj).map _
  | admin h => exact (AdminPage.brief_of_serves h).map _

section

variable [Zone] {r : Runtime Console Message} {timeout : Nat}

/-- A task that has begun on or before the admin page makes no more calls: only a sign in takes two,
and none is in flight. -/
theorem spent_of_begun (h : machine.Reaches Offers (start timeout) r)
    (hadmin : r.state.page.isAdmin = true) {t : Task Message} (ht : t ∈ r.tasks) (hb : t.Begun) :
    t.Spent := by
  obtain ⟨j, hj, hserves⟩ := (reaches_works h).2 t ht
  have hne : j ≠ .signIn := by
    rintro rfl
    have hlogin := not_isAdmin_of_signIn h ht hj
    rw [hlogin] at hadmin
    cases hadmin
  obtain ⟨xs, hx, -⟩ := h.heard (fun t ht => by cases ht) t ht
  exact ⟨hx.brief (brief_of_serves hserves hne), hb⟩

/-! ### The end of a session -/

/-- With no new session, a sign in on the new login page goes over the old one. -/
theorem not_retires_of_error (h : machine.Reaches Offers (start timeout) r)
    (hadmin : r.state.page.isAdmin = true) {offered : Console → Message → Prop}
    (hoff : ∀ c m, Offers c m → offered c m) (e : Error) (now : Nat) :
    ¬ machine.Retires offered r.state.session (signedOut (.error e) now r) := by
  obtain ⟨later, -, hlater, -, t, ht, hses, hw, -, login, password, hrest⟩ :=
    reaches_signIn (r := signedOut (.error e) now r) rfl
  obtain ⟨more, hlog⟩ := hlater.reaches.log_extends
  have hb : ¬ t.Begun := by
    rintro (hwait | ⟨m, hd⟩)
    · rw [hw] at hwait
      cases hwait
    · rw [hrest] at hd
      cases hd
  have hall := (reaches_signedOut h hadmin (.error e) now).trans hlater.reaches
  exact (reaches_numbered hall).not_retires (hlater.reaches.mono hoff) hlog ht hb
    (Nat.le_of_eq hses)

/-- A task that has not begun makes its call over the session that it was started in. -/
theorem not_retires_of_not_begun (h : machine.Reaches Offers (start timeout) r)
    (hadmin : r.state.page.isAdmin = true) {offered : Console → Message → Prop}
    {t : Task Message} (ht : t ∈ r.tasks) (hb : ¬ t.Begun) (connected : Except Error Unit)
    (now : Nat) : ¬ machine.Retires offered r.state.session (signedOut connected now r) := by
  have hle : t.session ≤ r.state.session := h.session_le advances (fun t ht => by cases ht) t ht
  refine (reaches_numbered (reaches_signedOut h hadmin connected now)).not_retires .refl
    (List.append_nil _).symm ?_ hb hle
  rw [signedOut_tasks]
  exact ht

theorem retires_of_begun (h : machine.Reaches Offers (start timeout) r)
    (hadmin : r.state.page.isAdmin = true) (offered : Console → Message → Prop)
    (hb : ∀ t ∈ r.tasks, t.Begun) (now : Nat) :
    machine.Retires offered r.state.session (signedOut (.ok ()) now r) := by
  refine Machine.retires_of_newer advances (Nat.lt_succ_self r.state.session) fun t ht => .inr ?_
  rw [signedOut_tasks] at ht
  exact spent_of_begun h hadmin ht (hb t ht)

/-- Signing out ends the session exactly if the new session could be opened and every task in flight
has made its call, whatever may follow: what the pages offer is enough to tell. -/
theorem logout_retires_session_iff (h : machine.Reaches Offers (start timeout) r)
    (hadmin : r.state.page.isAdmin = true) {offered : Console → Message → Prop}
    (hoff : ∀ c m, Offers c m → offered c m) (connected : Except Error Unit) (now : Nat) :
    machine.Retires offered r.state.session (signedOut connected now r) ↔
      connected = .ok () ∧ ∀ t ∈ r.tasks, t.Begun := by
  constructor
  · intro hret
    refine ⟨?_, fun t ht => ?_⟩
    · cases connected with
      | ok _ => rfl
      | error e => exact absurd hret (not_retires_of_error h hadmin hoff e now)
    · by_contra hb
      exact not_retires_of_not_begun h hadmin ht hb connected now hret
  · rintro ⟨rfl, hb⟩
    exact retires_of_begun h hadmin offered hb now

end

theorem root_signs_out :
    machine.Retires (fun _ _ => True) (machine.run (visiting []) (start 4000)).state.session
        (signedOut (.ok ()) 0 (machine.run (visiting []) (start 4000))) ∧
      ¬ machine.Retires Offers (machine.run (visiting []) (start 4000)).state.session
        (signedOut (.error .sessionExpired) 0 (machine.run (visiting []) (start 4000))) := by
  have hadmin : (machine.run (visiting []) (start 4000)).state.page.isAdmin = true := by decide
  refine ⟨(logout_retires_session_iff reaches_visiting hadmin (fun _ _ _ => trivial) _ _).2
    ⟨rfl, fun t ht => ?_⟩, fun hret => ?_⟩
  · rw [visiting_idle] at ht
    cases ht
  · have hok := (logout_retires_session_iff reaches_visiting hadmin (fun _ _ hm => hm) _ _).1 hret
    cases hok.1

/-- Signing out does not always end the session. -/
theorem logout_keeps_session_offline : ¬ ∀ timeout r connected now,
    machine.Reaches Offers (start timeout) r → r.state.page.isAdmin = true →
      machine.Retires (fun _ _ => True) r.state.session (signedOut connected now r) :=
  fun hall => not_retires_of_error reaches_visiting (by decide) (fun _ _ _ => trivial)
    (.transport "down") 0 (hall 4000 _ _ 0 reaches_visiting (by decide))

end TokenConsole.Console
