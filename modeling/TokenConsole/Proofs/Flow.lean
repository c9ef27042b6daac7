import TokenConsole.Effect

/-!
# How flows end

What a flow can come to, whatever the gateway answers, and what is left of it after some answers.
A flow that was started keeps to both: it ends as it was meant to end, and what is left of it is
determined by the answers it has heard.
-/
namespace TokenConsole.Gateway

/-- A call and what came back from it. -/
structure Exchange where
  call : Call
  reply : call.Reply

namespace Flow

variable {α β γ : Type}

/-- How a flow ends if the gateway answers each call as `answer` says. -/
def outcome (answer : (c : Call) → c.Reply) : Flow α → α
  | .done a => a
  | .call c next => (next (answer c)).outcome answer

/-- `P` holds of every end that the flow can come to. -/
def Ends (P : α → Prop) : Flow α → Prop
  | .done a => P a
  | .call c next => ∀ r : c.Reply, (next r).Ends P

/-- The flow makes one call at most. -/
inductive Brief : Flow α → Prop where
  | done (a : α) : Brief (.done a)
  | call {c : Call} {next : c.Reply → Flow α} : (∀ r, ∃ a, next r = .done a) → Brief (.call c next)

/-- `Hears f xs g`: after the answers `xs`, in this order, `g` is left of `f`. -/
inductive Hears : Flow α → List Exchange → Flow α → Prop where
  | refl (f : Flow α) : Hears f [] f
  | step {c : Call} {next : c.Reply → Flow α} {r : c.Reply} {xs : List Exchange} {g : Flow α} :
      Hears (next r) xs g → Hears (.call c next) (⟨c, r⟩ :: xs) g

theorem map_map (f : α → β) (g : β → γ) (flow : Flow α) :
    (flow.map f).map g = flow.map (g ∘ f) := by
  induction flow with
  | done a => rfl
  | call c next ih =>
    simp only [map]
    congr
    funext r
    exact ih r

theorem ends_map (f : α → β) (P : β → Prop) (flow : Flow α) :
    (flow.map f).Ends P ↔ flow.Ends fun a => P (f a) := by
  induction flow with
  | done a => rfl
  | call c next ih =>
    simp only [map, Ends]
    exact forall_congr' ih

theorem outcome_map (f : α → β) (flow : Flow α) (answer : (c : Call) → c.Reply) :
    (flow.map f).outcome answer = f (flow.outcome answer) := by
  induction flow with
  | done a => rfl
  | call c next ih => exact ih _

theorem ends_of_forall {P : α → Prop} (h : ∀ a, P a) (flow : Flow α) : flow.Ends P := by
  induction flow with
  | done a => exact h a
  | call c next ih => exact ih

theorem Ends.outcome {P : α → Prop} {flow : Flow α} (h : flow.Ends P)
    (answer : (c : Call) → c.Reply) : P (flow.outcome answer) := by
  induction flow with
  | done a => exact h
  | call c next ih => exact ih _ (h _)

theorem Brief.map {flow : Flow α} (h : flow.Brief) (f : α → β) : (flow.map f).Brief := by
  cases h with
  | done a => exact .done (f a)
  | call h =>
    refine .call fun r => ?_
    obtain ⟨a, ha⟩ := h r
    exact ⟨f a, by rw [ha]; rfl⟩

theorem brief_ask (c : Call) : (ask c).Brief := .call fun r => ⟨r, rfl⟩

/-- One more answer. -/
theorem Hears.snoc {f : Flow α} {xs : List Exchange} {c : Call} {next : c.Reply → Flow α}
    (h : Hears f xs (.call c next)) (r : c.Reply) : Hears f (xs ++ [⟨c, r⟩]) (next r) := by
  generalize hg : Flow.call c next = g at h
  induction h with
  | refl f => subst hg; exact .step (.refl _)
  | step _ ih => exact .step (ih hg)

theorem map_eq_done {f : α → β} {flow : Flow α} {b : β} (h : flow.map f = .done b) :
    ∃ a, flow = .done a ∧ f a = b := by
  cases flow with
  | done a => exact ⟨a, rfl, Flow.done.inj h⟩
  | call c next => cases h

/-- What is left of a mapped flow is what is left of the flow, mapped. -/
theorem Hears.of_map {f : α → β} {flow : Flow α} {g : Flow β} {xs : List Exchange}
    (h : Hears (flow.map f) xs g) : ∃ rest, g = rest.map f ∧ Hears flow xs rest := by
  induction flow generalizing xs with
  | done a =>
    cases h
    exact ⟨.done a, rfl, .refl _⟩
  | call c next ih =>
    cases h with
    | refl => exact ⟨.call c next, rfl, .refl _⟩
    | step h =>
      obtain ⟨rest, hg, hr⟩ := ih _ h
      exact ⟨rest, hg, .step hr⟩

theorem Hears.of_done {a : α} {g : Flow α} {xs : List Exchange} (h : Hears (.done a) xs g) :
    g = .done a := by
  cases h
  rfl

/-- A flow of one call at most has no other call left after its answer. -/
theorem Hears.brief {f g : Flow α} {xs : List Exchange} (h : Hears f xs g) (hf : f.Brief) :
    g.Brief := by
  cases h with
  | refl => exact hf
  | @step c next r xs _ h =>
    cases hf with
    | call hf =>
      obtain ⟨a, ha⟩ := hf r
      rw [ha] at h
      rw [h.of_done]
      exact .done a

/-- After the answers `xs` the flow makes the call `c`. -/
def Asks (f : Flow α) (xs : List Exchange) (c : Call) : Prop :=
  ∃ next, Hears f xs (.call c next)

theorem Asks.of_map {g : α → β} {f : Flow α} {xs : List Exchange} {c : Call}
    (h : (f.map g).Asks xs c) : f.Asks xs c := by
  obtain ⟨next, hx⟩ := h
  obtain ⟨rest, hrest, hf⟩ := hx.of_map
  cases rest with
  | done a => cases hrest
  | call c' next' =>
    cases hrest
    exact ⟨next', hf⟩

theorem not_asks_done {a : α} {xs : List Exchange} {c : Call} : ¬ (Flow.done a).Asks xs c := by
  rintro ⟨next, hx⟩
  cases hx

/-- A flow makes its first call, or one after the answer to it. -/
theorem Asks.cases {c c' : Call} {next : c'.Reply → Flow α} {xs : List Exchange}
    (h : (Flow.call c' next).Asks xs c) :
    (xs = [] ∧ c = c') ∨ ∃ r ys, xs = ⟨c', r⟩ :: ys ∧ (next r).Asks ys c := by
  obtain ⟨rest, hx⟩ := h
  cases hx with
  | refl => exact .inl ⟨rfl, rfl⟩
  | @step _ _ r ys _ hx => exact .inr ⟨r, ys, rfl, rest, hx⟩

theorem asks_ask {c c' : Call} {xs : List Exchange} (h : (ask c').Asks xs c) :
    xs = [] ∧ c = c' := by
  rcases Asks.cases h with h | ⟨r, ys, -, h⟩
  · exact h
  · exact absurd h not_asks_done

end Flow

end TokenConsole.Gateway

namespace TokenConsole

open TokenConsole.Gateway (Flow)

variable {μ ν : Type}

def Effect.flow? : Effect μ → Option (Flow μ)
  | .start flow => some flow
  | _ => none

/-- The flows that effects start. -/
def flows (effects : List (Effect μ)) : List (Flow μ) := effects.filterMap Effect.flow?

@[simp] theorem flows_nil : flows ([] : List (Effect μ)) = [] := rfl

@[simp] theorem flows_start (f : Flow μ) : flows [Effect.start f] = [f] := rfl

@[simp] theorem flows_append (as bs : List (Effect μ)) : flows (as ++ bs) = flows as ++ flows bs :=
  List.filterMap_append

@[simp] theorem flows_map (f : μ → ν) (effects : List (Effect μ)) :
    flows (effects.map (·.map f)) = (flows effects).map (·.map f) := by
  simp only [flows, List.filterMap_map, List.map_filterMap]
  congr 1
  funext e
  cases e <;> rfl

end TokenConsole
