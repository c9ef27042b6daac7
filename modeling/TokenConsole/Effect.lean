import TokenConsole.Gateway.Call

/-!
# Effects

What a step of the console asks of the world around it: to move the keyboard focus, to fill the
clipboard, to close the window, to run a flow and report back, to listen to keys and clocks.
-/
namespace TokenConsole

open TokenConsole.Gateway (Flow)

/-- A text input: the filter of the grid, or the field at a position of a dialog. -/
inductive Input where
  | filter
  | field (dialog : String) (position : Nat)
  deriving DecidableEq, Repr

inductive Effect (μ : Type) where
  | focus (input : Input)
  | copy (text : String)
  | findWindow
  | closeWindow
  /-- Runs a flow, which ends in a message. -/
  | start (flow : Flow μ)

variable {μ ν : Type}

def Effect.map (f : μ → ν) : Effect μ → Effect ν
  | .focus input => .focus input
  | .copy text => .copy text
  | .findWindow => .findWindow
  | .closeWindow => .closeWindow
  | .start flow => .start (flow.map f)

/-- Keys with a meaning of their own, and all others by the text they type. -/
inductive Key where
  | escape
  | tab
  | enter
  | backspace
  | space
  | text (s : String)
  deriving DecidableEq, Repr

structure KeyEvent where
  key : Key
  shift : Bool
  /-- Releasing a key means nothing. -/
  released : Bool
  deriving DecidableEq, Repr

/-- What a part of the console listens to: key presses, or a clock. -/
inductive Source where
  | keys
  | clock (period : Nat)
  deriving DecidableEq, Repr

end TokenConsole
