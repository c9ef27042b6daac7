import Mathlib.Data.List.Count
import TokenConsole.Proofs.Flow

/-!
# Parts of the console at work

A page, or the whole console, together with the tasks that it has started. Messages from outside,
calls, answers and the ends of tasks follow each other in any order; a task hands over one message
when it ends, at any later point. The log keeps all of that in the order in which it happened.
-/
namespace TokenConsole

open TokenConsole.Gateway (Call Exchange Flow)

/-- What a task is for, known by the message that it ends in. -/
inductive Job where
  | signIn
  | signUp
  | load
  | deletion (id : String)
  | tokenize
  | detokenize
  deriving DecidableEq, Repr

/-- A part of the console that messages drive. A step reads an `ε` from around it, such as the
time. -/
structure Machine (ε σ μ : Type) where
  update : ε → μ → σ → σ × List (Effect μ)
  /-- The session that the calls of a task go over that is started in this state. -/
  session : σ → Nat
  /-- Whether a message that leads from one state to another puts a new page in place. -/
  turns : μ → σ → σ → Bool
  /-- The job whose end a message reports. A message from outside reports none. -/
  job? : μ → Option Job

/-- Where a task comes from. -/
structure Stamp (μ : Type) where
  /-- Tasks are counted in the order of their start. -/
  number : Nat
  /-- The message that led to it, if it was not there from the beginning. -/
  origin : Option μ
  session : Nat
  /-- The page that started it; pages are counted in the order in which they were opened. -/
  visit : Nat

structure Task (μ : Type) extends Stamp μ where
  /-- What was started. -/
  work : Flow μ
  /-- What is left of it. -/
  rest : Flow μ
  /-- The next call was made and has no answer yet. -/
  isWaiting : Bool

inductive Entry (μ : Type) where
  | message (m : μ)
  | asked (s : Stamp μ) (c : Call)
  | answered (s : Stamp μ) (x : Exchange)
  | delivered (s : Stamp μ) (m : μ)

/-- A machine in the middle of a run. -/
structure Runtime (σ μ : Type) where
  state : σ
  tasks : List (Task μ)
  /-- How many tasks have been started. -/
  started : Nat
  /-- How many pages were opened in place of another. -/
  visit : Nat
  log : List (Entry μ)

inductive Event (ε μ : Type) where
  /-- A message from outside. -/
  | message (env : ε) (m : μ)
  /-- A task makes its next call. -/
  | ask (number : Nat)
  /-- The call of a task is answered. -/
  | answer (number : Nat) (reply : (c : Call) → c.Reply)
  /-- A task that has ended hands over its message. -/
  | deliver (env : ε) (number : Nat)

variable {ε σ μ : Type}

/-- The message of an event from outside. -/
def Event.message? : Event ε μ → Option μ
  | .message _ m => some m
  | _ => none

namespace Task

/-- Cuts a list of tasks at the task of a number. -/
def split? (number : Nat) : List (Task μ) → Option (List (Task μ) × Task μ × List (Task μ))
  | [] => none
  | t :: rest =>
    if t.number = number then some ([], t, rest)
    else (split? number rest).map fun (as, u, bs) => (t :: as, u, bs)

def ask? (t : Task μ) : Option (Task μ × Entry μ) :=
  match t.rest, t.isWaiting with
  | .call c _, false => some ({ t with isWaiting := true }, .asked t.toStamp c)
  | _, _ => none

def answer? (reply : (c : Call) → c.Reply) (t : Task μ) : Option (Task μ × Entry μ) :=
  match t.rest, t.isWaiting with
  | .call c next, true =>
    some ({ t with rest := next (reply c), isWaiting := false }, .answered t.toStamp ⟨c, reply c⟩)
  | _, _ => none

/-- The message of a task that has ended. -/
def result? (t : Task μ) : Option μ :=
  match t.rest with
  | .done m => some m
  | .call _ _ => none

end Task

namespace Runtime

def note (entry : Entry μ) (r : Runtime σ μ) : Runtime σ μ := { r with log := r.log ++ [entry] }

/-- Lets the task of a number do `f`, if it can. -/
def advance (number : Nat) (f : Task μ → Option (Task μ × Entry μ)) (r : Runtime σ μ) :
    Runtime σ μ :=
  match Task.split? number r.tasks with
  | none => r
  | some (as, t, bs) =>
    match f t with
    | none => r
    | some (t', entry) => note entry { r with tasks := as ++ t' :: bs }

end Runtime

namespace Machine

variable (M : Machine ε σ μ)

/-- The tasks for flows that are started in the state `s` on the page `visit`. -/
def tasksFor (s : σ) (visit : Nat) (origin : Option μ) : Nat → List (Flow μ) → List (Task μ)
  | _, [] => []
  | number, f :: fs =>
    { number, origin, session := M.session s, visit, work := f, rest := f, isWaiting := false } ::
      tasksFor s visit origin (number + 1) fs

def launch (origin : Option μ) (effects : List (Effect μ)) (r : Runtime σ μ) : Runtime σ μ :=
  { r with
    tasks := r.tasks ++ M.tasksFor r.state r.visit origin r.started (flows effects)
    started := r.started + (flows effects).length }

/-- At the beginning, with the effects that came with the first state. -/
def begin (s : σ) (effects : List (Effect μ)) : Runtime σ μ :=
  M.launch none effects { state := s, tasks := [], started := 0, visit := 0, log := [] }

/-- The part of the console handles a message and the flows it asks for are started. -/
def handle (env : ε) (m : μ) (r : Runtime σ μ) : Runtime σ μ :=
  let (s, effects) := M.update env m r.state
  let visit := if M.turns m r.state s then r.visit + 1 else r.visit
  M.launch (some m) effects { r with state := s, visit }

/-- An event that is not possible changes nothing. -/
def step (e : Event ε μ) (r : Runtime σ μ) : Runtime σ μ :=
  match e with
  | .message env m => M.handle env m (r.note (.message m))
  | .ask number => r.advance number Task.ask?
  | .answer number reply => r.advance number (Task.answer? reply)
  | .deliver env number =>
    match Task.split? number r.tasks with
    | none => r
    | some (as, t, bs) =>
      match t.result? with
      | none => r
      | some m =>
        M.handle env m (Runtime.note (.delivered t.toStamp m) { r with tasks := as ++ bs })

def run (events : List (Event ε μ)) (r : Runtime σ μ) : Runtime σ μ :=
  events.foldl (fun r e => M.step e r) r

/-- `M.Reaches offered a b`: some run leads from `a` to `b`, its messages from outside being among
those that are `offered` in the state in which they come. -/
inductive Reaches (offered : σ → μ → Prop) (a : Runtime σ μ) : Runtime σ μ → Prop where
  | refl : Reaches offered a a
  | next {b : Runtime σ μ} (e : Event ε μ) :
      Reaches offered a b → (∀ env m, e = .message env m → offered b.state m) →
      Reaches offered a (M.step e b)

/-- The job of a flow: what its end reports, seen from the end it comes to when no call succeeds. -/
def jobOf (f : Flow μ) : Option Job := M.job? (f.outcome fun _ => .error .sessionExpired)

/-- The jobs of the tasks that have not handed over their message yet. -/
def jobs (r : Runtime σ μ) : List (Option Job) := r.tasks.map fun t => M.jobOf t.work

/-- How many tasks for a job are in flight. -/
def inFlight (job : Job) (r : Runtime σ μ) : Nat := (M.jobs r).count (some job)

/-! ### Counting jobs -/

theorem count_append_some (js : List (Option Job)) (new : List Job) (j : Job) :
    (js ++ new.map some).count (some j) = js.count (some j) + new.count j := by
  rw [List.count_append, List.count_map_of_injective new some (fun _ _ => Option.some.inj) j]

theorem count_append_of_not_mem {js : List (Option Job)} {new : List Job} {j : Job} (h : j ∉ new) :
    (js ++ new.map some).count (some j) = js.count (some j) := by
  rw [count_append_some, List.count_eq_zero.2 h, Nat.add_zero]

theorem count_cut_self {as bs : List (Option Job)} {j : Job} :
    (as ++ some j :: bs).count (some j) = (as ++ bs).count (some j) + 1 := by
  simp only [List.count_append, List.count_cons_self]
  omega

theorem count_cut_of_ne {as bs : List (Option Job)} {j k : Job} (h : j ≠ k) :
    (as ++ some j :: bs).count (some k) = (as ++ bs).count (some k) := by
  rw [List.count_append, List.count_cons_of_ne (by simpa using h), List.count_append]

end Machine

end TokenConsole
