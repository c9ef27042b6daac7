import TokenConsole.Dialog
import TokenConsole.Password

/-!
# Accounts

Signing up and signing in. A password is checked before the gateway hears of it.
-/
namespace TokenConsole.Accounts

open TokenConsole.Gateway (Error Flow)

/-- The user who signed in. -/
structure User where
  id : String
  admin : Bool
  deriving DecidableEq, Repr

def User.greeting (u : User) : String :=
  if u.admin then "Signed in as admin" else "Signed in as default user"

instance : Outcome User := ⟨User.greeting⟩

def registered : String := "You are registered"

def passwordsDiffer : String := "Passwords do not match"

/-- Creates an account once the passwords agree and pass the policy. -/
def register (login password again : String) : Flow (Except Error String) :=
  if password ≠ again then .done (.error (.validation passwordsDiffer))
  else match Password.problem? password with
    | some p => .done (.error (.validation p.message))
    | none => .call (.signUp login password) fun r => .done (r.map fun _ => registered)

/-- Signs in and asks for the role of the user. -/
def authenticate (login password : String) : Flow (Except Error User) :=
  .call (.signIn login password) fun
    | .error e => .done (.error e)
    | .ok id => .call (.isAdmin id) fun r => .done (r.map fun admin => { id, admin })

/-- The value of a field, empty if there is none. -/
def value (p : Payload) (name : String) : String := (p.get? name).getD ""

def signUp (p : Payload) : Flow (Except Error String) :=
  register (value p "login") (value p "password") (value p "password_again")

def signIn (p : Payload) : Flow (Except Error User) :=
  authenticate (value p "login") (value p "password")

def loginField : Field := { Field.text "login" "Login" with placeholder := "Login" }

def passwordField : Field := { Field.password "password" "Password" with placeholder := "Password" }

def againField : Field :=
  { Field.password "password_again" "Repeat password" with placeholder := "Repeat password" }

def signUpDialog : Dialog String :=
  .ofForm "sign_up" "Sign up" "Sign up"
    (.ofFields [loginField, passwordField, againField] "login") signUp

def signInDialog : Dialog User :=
  .ofForm "sign_in" "Sign in" "Sign in" (.ofFields [loginField, passwordField] "login") signIn

end TokenConsole.Accounts
