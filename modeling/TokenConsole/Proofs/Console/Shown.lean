import TokenConsole.Proofs.Console.Continuation

/-!
# The page that is shown

The shown page turns at two messages only: the report of a sign in by an admin, and the wish to sign
out. A message for the page that is not shown is dropped, whatever it is, but for the wish to sign
out: the console looks at no page to handle it, so on a login page too it opens a session and puts a
new login page in place.
-/
namespace TokenConsole.Console

open TokenConsole.Accounts (User)
open TokenConsole.Calendar (Zone)
open TokenConsole.Gateway (Error)

/-- A message for the page that is not shown. -/
def Message.IsHidden (c : Console) : Message → Prop
  | .login _ => c.page.isAdmin = true
  | .admin _ => c.page.isAdmin = false
  | _ => False

section

variable [Zone] (connected : Except Error Unit) (now : Nat) (m : Message) (c : Console)

theorem isAdmin_update_iff_of_login (hp : c.page.isAdmin = false) :
    (c.update connected now m).1.page.isAdmin = true ↔
      ∃ u : User, u.admin = true ∧ m = .login (.signIn (.submitted (.ok u))) := by
  constructor
  · intro hadmin
    rcases (turn_sound connected now m c).page_cases with
      ⟨-, -, hsame⟩ | ⟨u, hm, hu, -⟩ | ⟨-, hlogout, -⟩
    · rw [hsame, hp] at hadmin
      cases hadmin
    · exact ⟨u, hu, hm⟩
    · rw [hlogout, logout_page] at hadmin
      cases hadmin
  · rintro ⟨u, hu, rfl⟩
    cases hpage : c.page with
    | admin p =>
      rw [hpage] at hp
      cases hp
    | login p =>
      rw [update_enter hpage hu]
      rfl

theorem isAdmin_update_iff_of_admin (hp : c.page.isAdmin = true) :
    (c.update connected now m).1.page.isAdmin = false ↔ m = .admin .logout := by
  constructor
  · intro hlogin
    rcases (turn_sound connected now m c).page_cases with
      ⟨-, -, hsame⟩ | ⟨u, -, -, -, -, hfalse, -⟩ | ⟨hm, -, -⟩
    · rw [hsame, hp] at hlogin
      cases hlogin
    · rw [hp] at hfalse
      cases hfalse
    · exact hm
  · rintro rfl
    change (c.logout connected now).page.isAdmin = false
    rw [logout_page]
    rfl

/-- A message is dropped if it changes nothing, opens no session and starts nothing. -/
def Drops : Prop := c.update connected now m = (c, []) ∧ connects m = false

variable {m c}

/-- A message for the page that is not shown is dropped, unless it is the wish to sign out. -/
theorem drops_iff_of_isHidden (hm : m.IsHidden c) :
    c.Drops connected now m ↔ m ≠ .admin .logout := by
  constructor
  · rintro ⟨-, hc⟩ rfl
    cases hc
  · intro hne
    cases m with
    | interrupt => cases hm
    | toast m => cases hm
    | login m =>
      cases hp : c.page with
      | login p => simp [Message.IsHidden, hp, Page.isAdmin] at hm
      | admin p => exact ⟨by simp [update, hp], rfl⟩
    | admin m =>
      have hm' : m ≠ .logout := fun he => hne (he ▸ rfl)
      cases hp : c.page with
      | login p => exact ⟨by rw [update_admin connected now hm' c, hp], connects_of_ne hm'⟩
      | admin p => simp [Message.IsHidden, hp, Page.isAdmin] at hm

end

/-- The login page gives way to the admin page just when a sign in by an admin is reported, and the
admin page to a login page just when the user wishes to sign out. A message for the page that is not
shown is dropped just when it is not that wish. -/
theorem shown_page_turns [Zone] (connected : Except Error Unit) (now : Nat) (m : Message)
    (c : Console) :
    (c.page.isAdmin = false → ((c.update connected now m).1.page.isAdmin = true ↔
      ∃ u : User, u.admin = true ∧ m = .login (.signIn (.submitted (.ok u))))) ∧
    (c.page.isAdmin = true →
      ((c.update connected now m).1.page.isAdmin = false ↔ m = .admin .logout)) ∧
    (m.IsHidden c → (c.Drops connected now m ↔ m ≠ .admin .logout)) :=
  ⟨isAdmin_update_iff_of_login connected now m c, isAdmin_update_iff_of_admin connected now m c,
    drops_iff_of_isHidden connected now⟩

/-- A sign in by an admin opens the admin page, which then drops what is meant for the login page,
and signing out closes it, after which a report for it is dropped. -/
theorem turns_of_visit :
    ((fresh 4000).update (.ok ()) 0
        (.login (.signIn (.submitted (.ok ⟨"1", true⟩))))).1.page.isAdmin = true ∧
      (machine.run (visiting []) (start 4000)).state.Drops (.ok ()) 0 (.login .openSignIn) ∧
      ((machine.run (visiting []) (start 4000)).state.update (.ok ()) 0
        (.admin .logout)).1.page.isAdmin = false ∧
      (signedOut (.ok ()) 0 (machine.run (visiting []) (start 4000))).state.Drops (.ok ()) 0
        (.admin (.grid (.refreshed (.ok [])))) := by
  have hshown : (machine.run (visiting []) (start 4000)).state.page.isAdmin = true := by decide
  have hleft : (signedOut (.ok ()) 0
      (machine.run (visiting []) (start 4000))).state.page.isAdmin = false := by decide
  refine ⟨?_, ?_, ?_, ?_⟩
  · exact ((shown_page_turns (.ok ()) 0 _ (fresh 4000)).1 rfl).2 ⟨_, rfl, rfl⟩
  · exact ((shown_page_turns (.ok ()) 0 (.login .openSignIn) _).2.2 hshown).2
      fun he => Message.noConfusion he
  · exact ((shown_page_turns (.ok ()) 0 _ _).2.1 hshown).2 rfl
  · refine ((shown_page_turns (.ok ()) 0 (.admin (.grid _)) _).2.2 hleft).2 fun he => ?_
    exact AdminPage.Message.noConfusion (Message.admin.inj he)

/-- Signing out twice, as a second press of the button does before the login page is drawn, opens a
session too many. -/
theorem late_logout_not_dropped :
    ¬∀ r, machine.Reaches Offers (start 4000) r → ∀ connected now m, m.IsHidden r.state →
      r.state.Drops connected now m := by
  intro hall
  have hleft : (signedOut (.ok ()) 0
      (machine.run (visiting []) (start 4000))).state.page.isAdmin = false := by decide
  obtain ⟨hupdate, -⟩ := hall _ (reaches_signedOut reaches_visiting (by decide) (.ok ()) 0) (.ok ())
    0 (.admin .logout) hleft
  have hsession := congrArg (fun x => x.1.session) hupdate
  exact absurd hsession (by decide)

end TokenConsole.Console
