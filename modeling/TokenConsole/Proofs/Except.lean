/-!
# Readers that may fail

How a reader that is built from others comes to its answer.
-/
namespace TokenConsole

variable {ε α β : Type}

theorem map_eq_ok_iff {f : α → β} {x : Except ε α} {b : β} :
    x.map f = .ok b ↔ ∃ a, x = .ok a ∧ f a = b := by
  cases x with
  | error e => simp [Except.map]
  | ok a => simp [Except.map]

theorem bind_eq_ok_iff {f : α → Except ε β} {x : Except ε α} {b : β} :
    x >>= f = .ok b ↔ ∃ a, x = .ok a ∧ f a = .ok b := by
  cases x with
  | error e => simp [bind, Except.bind]
  | ok a => simp [bind, Except.bind]

/-- A result that passes a test is there. -/
theorem exists_of_any_toOption {x : Except ε α} {p : α → Bool} (h : x.toOption.any p = true) :
    ∃ a, x = .ok a ∧ p a = true := by
  cases x with
  | error e => cases h
  | ok a => exact ⟨a, rfl, h⟩

theorem map_self (x : Except ε α) : x.map (fun a => a) = x := by
  cases x with
  | error e => rfl
  | ok a => rfl

/-- What a reader makes of its first part is passed on to what the rest makes of it. -/
theorem bind_eq_map_bind {x y : Except ε α} {f : α → α} {g : β → β} {k l : α → Except ε β}
    (hfirst : x = y.map f) (hrest : ∀ a, k (f a) = (l a).map g) :
    x >>= k = (y >>= l).map g := by
  subst hfirst
  cases y with
  | error e => rfl
  | ok a => exact hrest a

/-- The case that the first part stays as it is. -/
theorem bind_eq_map_bind_of_eq {x y : Except ε α} {g : β → β} {k l : α → Except ε β}
    (hfirst : x = y) (hrest : ∀ a, k a = (l a).map g) : x >>= k = (y >>= l).map g :=
  bind_eq_map_bind (hfirst.trans (map_self y).symm) hrest

end TokenConsole
