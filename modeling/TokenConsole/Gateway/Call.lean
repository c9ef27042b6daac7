import TokenConsole.Gateway.Error
import TokenConsole.Gateway.Mapping

/-!
# Calls and flows

A call is a question to the gateway. A flow is a computation that asks the gateway along the way;
it says what it does with each answer, and leaves open who answers.
-/
namespace TokenConsole.Gateway

inductive Call where
  | signUp (login password : String)
  | signIn (login password : String)
  | isAdmin (userId : String)
  | listMappings
  | deleteMapping (id : String)
  /-- A token for `plaintext` that lives for `ttl` seconds, or for ever. -/
  | tokenize (plaintext : String) (ttl : Option Nat)
  | detokenize (token : String)
  deriving DecidableEq, Repr

/-- What a call that succeeds gives: a sign in the id of the user, the two token calls a token or a
plaintext. -/
abbrev Call.Answer : Call → Type
  | .signUp .. => Unit
  | .signIn .. => String
  | .isAdmin _ => Bool
  | .listMappings => List Mapping
  | .deleteMapping _ => Unit
  | .tokenize .. => String
  | .detokenize _ => String

/-- What comes back from a call. -/
abbrev Call.Reply (c : Call) : Type := Except Error c.Answer

inductive Flow (α : Type) where
  | done (result : α)
  | call (c : Call) (next : c.Reply → Flow α)

namespace Flow

variable {α β σ : Type}

def map (f : α → β) : Flow α → Flow β
  | .done a => .done (f a)
  | .call c next => .call c fun r => (next r).map f

/-- Asks for one answer. -/
def ask (c : Call) : Flow c.Reply := .call c .done

/-- Runs a flow against a gateway whose state `serve` advances with every call. -/
def run (serve : (c : Call) → σ → c.Reply × σ) : Flow α → σ → α × σ
  | .done a, s => (a, s)
  | .call c next, s =>
    let (r, s) := serve c s
    (next r).run serve s

theorem run_map (serve : (c : Call) → σ → c.Reply × σ) (f : α → β) (flow : Flow α) (s : σ) :
    (flow.map f).run serve s = (f (flow.run serve s).1, (flow.run serve s).2) := by
  induction flow generalizing s with
  | done a => rfl
  | call c next ih => exact ih _ _

end Flow

end TokenConsole.Gateway
