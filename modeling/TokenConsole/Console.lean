import TokenConsole.Page.Admin
import TokenConsole.Page.Login

/-!
# The console

Shows the login page until an admin signs in, and then the admin page until that user signs out.
All calls go over the session that the console holds; signing out opens a new one.
-/
namespace TokenConsole

open TokenConsole.Calendar (Zone)
open TokenConsole.Gateway (Error)

inductive Page where
  | login (p : LoginPage)
  | admin (p : AdminPage)

structure Console where
  page : Page
  toasts : Toasts
  /-- The session that calls go over, counted from 1 in the order of their opening. -/
  session : Nat

namespace Console

def version : String := "0.1.0"

inductive Message where
  /-- The process was asked to end. -/
  | interrupt
  | login (m : LoginPage.Message)
  | admin (m : AdminPage.Message)
  | toast (m : Toasts.Message)

def title (c : Console) : String :=
  match c.page with
  | .login _ => s!"Anonix v{version}"
  | .admin _ => s!"Anonix v{version} - Admin"

/-- The console at its start, over its first session. -/
def fresh (toastTimeout : Nat) : Console := ⟨.login .fresh, .empty toastTimeout, 1⟩

/-- Back to the login page. `connected` says how the attempt to open a new session went; when it
failed, the console stays with the session it has. -/
def logout (connected : Except Error Unit) (now : Nat) (c : Console) : Console :=
  match connected with
  | .ok _ => { c with session := c.session + 1, page := .login .fresh }
  | .error e => { c with toasts := c.toasts.add now .error e.message, page := .login .fresh }

/-- Whether handling a message opens a session. -/
def connects : Message → Bool
  | .admin .logout => true
  | _ => false

/-- The console after a message and the effects it asks for; flows that it starts run over the
session that it then holds. `connected` is the result of opening a session, should the message lead
to that. Messages for a page that is not shown are dropped. -/
def update [Zone] (connected : Except Error Unit) (now : Nat) (m : Message) (c : Console) :
    Console × List (Effect Message) :=
  match m with
  | .interrupt => (c, [.findWindow, .closeWindow])
  | .toast m => ({ c with toasts := c.toasts.update m }, [])
  | .login m =>
    match c.page with
    | .admin _ => (c, [])
    | .login p =>
      let s := p.update now m c.toasts
      if s.user.any (·.admin) then
        let (page, effects) := AdminPage.fresh
        ({ c with page := .admin page, toasts := s.toasts }, effects.map (·.map .admin))
      else ({ c with page := .login s.page, toasts := s.toasts }, s.effects.map (·.map .login))
  | .admin .logout => (c.logout connected now, [])
  | .admin m =>
    match c.page with
    | .login _ => (c, [])
    | .admin p =>
      let s := p.update now m c.toasts
      ({ c with page := .admin s.page, toasts := s.toasts }, s.effects.map (·.map .admin))

def sources (c : Console) : List Source :=
  let shown := match c.page with
    | .login p => p.sources
    | .admin p => p.sources
  if c.toasts.items.isEmpty then shown else shown ++ [.clock 200]

/-- The messages that a key press makes. -/
def onKey (e : KeyEvent) (c : Console) : List Message :=
  match c.page with
  | .login p => (p.onKey e).map .login
  | .admin p => (p.onKey e).map .admin

end Console

end TokenConsole
