import TokenConsole.Proofs.Machine.Calls

/-!
# Letting one task run

A task in flight can always be run to its end, with any answers, while all others wait.
-/
namespace TokenConsole.Machine

open TokenConsole.Gateway (Call Flow)

variable {ε σ μ : Type} {M : Machine ε σ μ} {offered : σ → μ → Prop} {a b c r : Runtime σ μ}
  {t t' t'' : Task μ}

/-- From `a` to `b` nothing but the task `t` has moved, and it is `t'` now. -/
structure Moves (a b : Runtime σ μ) (t t' : Task μ) : Prop where
  state : b.state = a.state
  mem : t' ∈ b.tasks
  stamp : t'.toStamp = t.toStamp
  work : t'.work = t.work
  others : ∀ u ∈ a.tasks, u.number ≠ t.number → u ∈ b.tasks

theorem Moves.refl (ht : t ∈ a.tasks) : Moves a a t t :=
  ⟨rfl, ht, rfl, rfl, fun _ hu _ => hu⟩

theorem Moves.trans (h : Moves a b t t') (h' : Moves b c t' t'') : Moves a c t t'' := by
  refine ⟨h'.state.trans h.state, h'.mem, h'.stamp.trans h.stamp, h'.work.trans h.work,
    fun u hu hn => h'.others u (h.others u hu hn) ?_⟩
  rwa [h.stamp]

/-- An event of one task moves no other task. -/
theorem moves_advance (hn : Numbered r) (ht : t ∈ r.tasks) {f : Task μ → Option (Task μ × Entry μ)}
    {entry : Entry μ} (hf : f t = some (t', entry)) (hs : t'.toStamp = t.toStamp)
    (hw : t'.work = t.work) : Moves r (r.advance t.number f) t t' := by
  obtain ⟨as, bs, hcut, hsplit⟩ := hn.cut ht
  have he : r.advance t.number f = Runtime.note entry { r with tasks := as ++ t' :: bs } := by
    unfold Runtime.advance
    rw [hsplit]
    simp only [hf]
  rw [he]
  refine ⟨rfl, by simp [Runtime.note], hs, hw, fun u hu hne => ?_⟩
  have hleft : u ∈ as ++ bs := Task.mem_remove (hcut ▸ hu) hne
  change u ∈ as ++ t' :: bs
  simp only [List.mem_append, List.mem_cons] at hleft ⊢
  exact hleft.imp id .inr

theorem reaches_ask (number : Nat) : M.Reaches offered r (M.step (.ask number) r) :=
  .next _ .refl fun _ _ he => by cases he

theorem reaches_answer (number : Nat) (answer : (c : Call) → c.Reply) :
    M.Reaches offered r (M.step (.answer number answer) r) :=
  .next _ .refl fun _ _ he => by cases he

theorem reaches_deliver (env : ε) (number : Nat) :
    M.Reaches offered r (M.step (.deliver env number) r) :=
  .next _ .refl fun _ _ he => by cases he

variable (M offered) in
/-- The next call of a task can be made. -/
theorem exists_waiting (hn : Numbered a) (ht : t ∈ a.tasks) {c : Call} {next : c.Reply → Flow μ}
    (hc : t.rest = .call c next) : ∃ b t', M.Reaches offered a b ∧ Moves a b t t' ∧
      t'.rest = .call c next ∧ t'.isWaiting = true := by
  cases hw : t.isWaiting with
  | true => exact ⟨a, t, .refl, .refl ht, hc, hw⟩
  | false =>
    have hask : t.ask? = some ({ t with isWaiting := true }, .asked t.toStamp c) := by
      unfold Task.ask?
      rw [hc, hw]
    exact ⟨_, _, reaches_ask t.number, moves_advance hn ht hask rfl rfl, hc, rfl⟩

variable (M offered) in
/-- A task in flight can be run to its end. -/
theorem exists_finished (hn : Numbered a) (ht : t ∈ a.tasks) (answer : (c : Call) → c.Reply) :
    ∃ b t', M.Reaches offered a b ∧ Moves a b t t' ∧ t'.rest = .done (t.rest.outcome answer) := by
  -- By induction on what is left of the task: a call and its answer, then the rest.
  generalize hf : t.rest = f
  induction f generalizing a t with
  | done m => exact ⟨a, t, .refl, .refl ht, hf⟩
  | call c next ih =>
    obtain ⟨b, u, hab, hmove, hcall, hw⟩ := exists_waiting M offered hn ht hf
    have hnb := hab.numbered hn
    have hanswer : u.answer? answer =
        some ({ u with rest := next (answer c), isWaiting := false },
          .answered u.toStamp ⟨c, answer c⟩) := by
      unfold Task.answer?
      rw [hcall, hw]
    have hstep := moves_advance hnb hmove.mem hanswer rfl rfl
    have hbd : M.Reaches offered b (M.step (.answer u.number answer) b) :=
      reaches_answer u.number answer
    obtain ⟨d, v, hdd, hlast, hdone⟩ := ih (answer c) (hbd.numbered hnb) hstep.mem rfl
    exact ⟨d, v, hab.trans (hbd.trans hdd), hmove.trans (hstep.trans hlast), hdone⟩

/-- A task that has ended can hand over its message; no other task is touched. -/
theorem deliver_mem (hn : Numbered r) (ht : t ∈ r.tasks) {m : μ} (hd : t.rest = .done m) (env : ε) :
    (M.step (.deliver env t.number) r).state = (M.update env m r.state).1 ∧
      ∀ u ∈ r.tasks, u.number ≠ t.number → u ∈ (M.step (.deliver env t.number) r).tasks := by
  obtain ⟨as, bs, hcut, hsplit⟩ := hn.cut ht
  rw [step_deliver hsplit hd]
  exact ⟨rfl, fun u hu hne => List.mem_append_left _ (Task.mem_remove (hcut ▸ hu) hne)⟩

end TokenConsole.Machine
