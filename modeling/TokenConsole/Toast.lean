import TokenConsole.Json.Pretty

/-!
# Toasts

Short messages in a corner of the window, the oldest first. Each one is on the screen until it
expires or is dismissed. Times are milliseconds since the start of the program.
-/
namespace TokenConsole

/-- How a message is meant. -/
inductive Tone where
  | success
  | error
  deriving DecidableEq, Repr

structure Toast where
  id : Nat
  tone : Tone
  text : String
  expiresAt : Nat
  deriving DecidableEq, Repr

/-- What a toast is made of. -/
inductive Toast.Content where
  | text (s : String)
  | json (v : Json)
  | empty

/-- The text that is shown: a JSON text as it is, any other JSON value over several lines. -/
def Toast.Content.shown : Toast.Content → String
  | .text s => s
  | .json (.string s) => s
  | .json v => v.pretty
  | .empty => ""

def Toast.Content.ofJson : Json → Toast.Content
  | .null => .empty
  | v => .json v

structure Toasts where
  timeout : Nat
  nextId : Nat
  items : List Toast
  deriving DecidableEq, Repr

namespace Toasts

inductive Message where
  | tick (now : Nat)
  | dismiss (id : Nat)
  deriving DecidableEq, Repr

def defaultTimeout : Nat := 4000

/-- No toasts yet, and none has been shown. -/
def empty (timeout : Nat) : Toasts := ⟨timeout, 0, []⟩

/-- Shows a text for a time of its own. Its id is the `nextId` from before. -/
def showFor (now : Nat) (tone : Tone) (text : String) (timeout : Nat) (ts : Toasts) : Toasts :=
  { ts with nextId := ts.nextId + 1, items := ts.items ++ [⟨ts.nextId, tone, text, now + timeout⟩] }

def add (now : Nat) (tone : Tone) (text : String) (ts : Toasts) : Toasts :=
  ts.showFor now tone text ts.timeout

def dismiss (id : Nat) (ts : Toasts) : Toasts :=
  { ts with items := ts.items.filter (·.id != id) }

/-- Whether a toast is on the screen. -/
def has (id : Nat) (ts : Toasts) : Bool := ts.items.any (·.id == id)

def expire (now : Nat) (ts : Toasts) : Toasts :=
  { ts with items := ts.items.filter fun t => now < t.expiresAt }

def update (m : Message) (ts : Toasts) : Toasts :=
  match m with
  | .tick now => ts.expire now
  | .dismiss id => ts.dismiss id

/-- How many toasts an update removes. -/
def removedBy (m : Message) (ts : Toasts) : Nat :=
  ts.items.length - (ts.update m).items.length

end Toasts

end TokenConsole
