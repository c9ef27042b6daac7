import TokenConsole.Effect
import TokenConsole.Form
import TokenConsole.Text.Blank
import TokenConsole.Toast

/-!
# Dialogs

A dialog shows a form and runs an action with its values. It may be open and it may be submitting,
independently of each other: an answer can arrive after the dialog was closed. While it is open,
Tab moves through its visible text inputs and Escape closes it.
-/
namespace TokenConsole

open TokenConsole.Gateway (Error Flow)

/-- A result that says what it means to the user. A blank text means failure. -/
class Outcome (α : Type) where
  message : α → String

instance : Outcome String := ⟨id⟩

/-- The message inside a dialog. -/
structure Inline where
  tone : Tone
  text : String
  expiresAt : Nat
  deriving DecidableEq, Repr

structure Dialog (α : Type) where
  name : String
  title : String
  submitLabel : String
  form : Form
  action : Payload → Flow (Except Error α)
  isOpen : Bool
  isSubmitting : Bool
  inline : Option Inline
  /-- The position of the field that has the focus, as far as the dialog knows. -/
  focused : Option Nat
  /-- The input that gets the focus back when the dialog closes. -/
  restore : Option Input

namespace Dialog

inductive Message (α : Type) where
  | input (field value : String)
  | select (field : String) (choice : Choice)
  | submit
  | submitted (result : Except Error α)
  | close
  | focusNext
  | focusPrevious
  | tick (now : Nat)

/-- How long an inline message stays, in milliseconds. -/
def inlineTimeout : Nat := 30000

def defaultFailure : String := "Failed to complete the operation"

def blankField : String := "Please enter text."

def emptyResponse : String := "empty response"

variable {α : Type}

def ofForm (name title submitLabel : String) (form : Form)
    (action : Payload → Flow (Except Error α)) : Dialog α :=
  { name, title, submitLabel, form, action, isOpen := false, isSubmitting := false,
    inline := none, focused := none, restore := none }

def focusOn (d : Dialog α) : Option Nat → List (Effect (Message α))
  | some position => [.focus (.field d.name position)]
  | none => []

/-- Opens the dialog afresh with the focus on its first input. A submission under way goes on. -/
def openWith (restore : Option Input) (d : Dialog α) : Dialog α × List (Effect (Message α)) :=
  let form := d.form.reset
  let focused := form.focusRing.head?
  ({ d with form, inline := none, restore, isOpen := true, focused }, d.focusOn focused)

/-- Closes the dialog and gives the focus back, once. -/
def close (d : Dialog α) : Dialog α × List (Effect (Message α)) :=
  ({ d with isOpen := false, focused := none, restore := none },
    match d.restore with
    | some input => [.focus input]
    | none => [])

def showInline (now : Nat) (tone : Tone) (text : String) (d : Dialog α) : Dialog α :=
  { d with inline := some ⟨tone, text, now + inlineTimeout⟩ }

def hideInline (d : Dialog α) : Dialog α := { d with inline := none }

/-- The required field, if it is blank. -/
def blankRequired? (form : Form) : Option Field :=
  form.required?.filter fun f => Text.isBlank ((form.payload.get? f.name).getD "")

/-- Runs the action, unless the dialog is closed or already submitting or its required field is
blank. -/
def submit (now : Nat) (d : Dialog α) : Dialog α × List (Effect (Message α)) :=
  if !d.isOpen || d.isSubmitting then (d, [])
  else
    match blankRequired? d.form with
    | some f =>
      let position := d.form.position? f.name
      let refused := { d with form := d.form.invalidate f.name, focused := position }
      (refused.showInline now .error blankField, d.focusOn position)
    | none =>
      ({ d with inline := none, isSubmitting := true },
        [.start ((d.action d.form.payload).map .submitted)])

/-- The index that follows `current` around a ring of `size` inputs; from outside the ring, its
first or its last one. -/
def neighbour (size : Nat) (current : Option Nat) (forward : Bool) : Nat :=
  match current, forward with
  | none, true => 0
  | none, false => size - 1
  | some i, true => (i + 1) % size
  | some i, false => (i + size - 1) % size

/-- Moves the focus around the ring of visible inputs. -/
def moveFocus (forward : Bool) (d : Dialog α) : Dialog α × List (Effect (Message α)) :=
  let ring := d.form.focusRing
  if ring = [] then (d, [])
  else
    let current := d.focused.bind fun p => ring.findIdx? (· == p)
    let next := ring[neighbour ring.length current forward]?
    ({ d with focused := next }, d.focusOn next)

/-- What is shown for a result, and the outcome if there is one. -/
def verdict [Outcome α] : Except Error α → Tone × String × Option α
  | .error e =>
    let text := e.message
    (.error, if Text.isBlank text then defaultFailure else text, none)
  | .ok a =>
    let text := Outcome.message a
    if Text.isBlank text then (.error, (Error.unexpectedShape emptyResponse).message, none)
    else (.success, text, some a)

/-- A dialog after a message: the toasts, the effects and the outcome of a submission that has just
succeeded. -/
structure Step (α : Type) where
  dialog : Dialog α
  toasts : Toasts
  effects : List (Effect (Message α))
  outcome : Option α

def update [Outcome α] (now : Nat) (m : Message α) (d : Dialog α) (toasts : Toasts) : Step α :=
  let quietly (r : Dialog α × List (Effect (Message α))) : Step α := ⟨r.1, toasts, r.2, none⟩
  match m with
  | .input field value =>
    quietly ({ d with form := (d.form.set field value).1, focused := d.form.position? field }, [])
  | .select field choice =>
    let (form, revealed) := d.form.set field choice.value
    match revealed with
    | some position => quietly ({ d with form, focused := some position }, d.focusOn revealed)
    | none => quietly ({ d with form }, [])
  | .submit => quietly (d.submit now)
  | .submitted result =>
    let (tone, text, outcome) := verdict result
    ⟨showInline now tone text { d with isSubmitting := false }, toasts.add now tone text, [],
      outcome⟩
  | .close => quietly d.close
  | .focusNext => quietly (d.moveFocus true)
  | .focusPrevious => quietly (d.moveFocus false)
  | .tick now =>
    match d.inline with
    | some i => quietly (if i.expiresAt ≤ now then d.hideInline else d, [])
    | none => quietly (d, [])

/-- Keys reach the dialog while it is open. -/
def listensToKeys (d : Dialog α) : Bool := d.isOpen

def sources (d : Dialog α) : List Source :=
  if !d.isOpen then [] else if d.inline.isSome then [.keys, .clock 1000] else [.keys]

/-- The message of a key press, if it means something to the dialog. -/
def onKey (e : KeyEvent) (d : Dialog α) : Option (Message α) :=
  if !d.listensToKeys || e.released then none
  else match e.key with
    | .escape => some .close
    | .tab => some (if e.shift then .focusPrevious else .focusNext)
    | _ => none

end Dialog

end TokenConsole
