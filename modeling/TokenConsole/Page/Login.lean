import TokenConsole.Accounts

/-!
# The login page

Two dialogs, of which opening one closes the other.
-/
namespace TokenConsole

open TokenConsole.Accounts (User)

structure LoginPage where
  signIn : Dialog User
  signUp : Dialog String

namespace LoginPage

inductive Message where
  | openSignIn
  | openSignUp
  | signIn (m : Dialog.Message User)
  | signUp (m : Dialog.Message String)

def fresh : LoginPage := ⟨Accounts.signInDialog, Accounts.signUpDialog⟩

/-- A login page after a message, and the user if a sign in has just succeeded. -/
structure Step where
  page : LoginPage
  toasts : Toasts
  effects : List (Effect Message)
  user : Option User

def update (now : Nat) (m : Message) (p : LoginPage) (toasts : Toasts) : Step :=
  match m with
  | .openSignIn =>
    let (signIn, effects) := p.signIn.openWith none
    ⟨⟨signIn, p.signUp.close.1⟩, toasts, effects.map (·.map .signIn), none⟩
  | .openSignUp =>
    let (signUp, effects) := p.signUp.openWith none
    ⟨⟨p.signIn.close.1, signUp⟩, toasts, effects.map (·.map .signUp), none⟩
  | .signIn m =>
    let s := p.signIn.update now m toasts
    ⟨{ p with signIn := s.dialog }, s.toasts, s.effects.map (·.map .signIn), s.outcome⟩
  | .signUp m =>
    let s := p.signUp.update now m toasts
    ⟨{ p with signUp := s.dialog }, s.toasts, s.effects.map (·.map .signUp), none⟩

def sources (p : LoginPage) : List Source := p.signIn.sources ++ p.signUp.sources

/-- What a key press means to each of the dialogs. -/
def onKey (e : KeyEvent) (p : LoginPage) : List Message :=
  ((p.signIn.onKey e).map .signIn).toList ++ ((p.signUp.onKey e).map .signUp).toList

end LoginPage

end TokenConsole
