import TokenConsole.Proofs.Machine.Basic

/-!
# What one event does

`Machine.Step` lists all that an event can do; every invariant of a run is proved by cases on it.
Two invariants hold of every machine: tasks have numbers of their own, and what is left of a task
is what its logged answers leave of it.
-/
namespace TokenConsole

open TokenConsole.Gateway (Call Exchange Flow)

variable {ε σ μ : Type}

theorem Task.split?_eq_some {number : Nat} {ts as bs : List (Task μ)} {t : Task μ}
    (h : Task.split? number ts = some (as, t, bs)) : ts = as ++ t :: bs ∧ t.number = number := by
  induction ts generalizing as with
  | nil => cases h
  | cons u rest ih =>
    unfold Task.split? at h
    split at h
    · next hu =>
      cases h
      exact ⟨rfl, hu⟩
    · obtain ⟨⟨as', v, bs'⟩, hs, he⟩ := Option.map_eq_some_iff.1 h
      cases he
      obtain ⟨hrest, hn⟩ := ih hs
      exact ⟨by rw [hrest]; rfl, hn⟩

/-- The task of a number is found if no task before it has that number. -/
theorem Task.split?_append {as bs : List (Task μ)} {t : Task μ}
    (h : ∀ a ∈ as, a.number ≠ t.number) :
    Task.split? t.number (as ++ t :: bs) = some (as, t, bs) := by
  induction as with
  | nil => simp [Task.split?]
  | cons a as ih =>
    have ha : a.number ≠ t.number := h a (by simp)
    have hrest := ih fun b hb => h b (by simp [hb])
    simp [Task.split?, ha, hrest]

theorem Task.mem_replace {as bs : List (Task μ)} {t t' u : Task μ} (h : u ∈ as ++ t' :: bs) :
    u = t' ∨ u ∈ as ++ t :: bs := by
  rcases List.mem_append.1 h with h | h
  · exact .inr (List.mem_append_left _ h)
  · refine (List.mem_cons.1 h).imp id fun h => ?_
    exact List.mem_append_right _ (List.mem_cons_of_mem _ h)

theorem Task.mem_remove {as bs : List (Task μ)} {t u : Task μ} (h : u ∈ as ++ t :: bs)
    (hne : u.number ≠ t.number) : u ∈ as ++ bs := by
  rcases List.mem_append.1 h with h | h
  · exact List.mem_append_left _ h
  · rcases List.mem_cons.1 h with rfl | h
    · exact absurd rfl hne
    · exact List.mem_append_right _ h

theorem Task.ask?_eq_some {t t' : Task μ} {entry : Entry μ} (h : t.ask? = some (t', entry)) :
    ∃ (c : Call) (next : c.Reply → Flow μ), t.rest = .call c next ∧ t.isWaiting = false ∧
      t' = { t with isWaiting := true } ∧ entry = .asked t.toStamp c := by
  unfold Task.ask? at h
  split at h
  · next c next hr hw =>
    cases h
    exact ⟨c, next, hr, hw, rfl, rfl⟩
  · cases h

theorem Task.answer?_eq_some {reply : (c : Call) → c.Reply} {t t' : Task μ} {entry : Entry μ}
    (h : t.answer? reply = some (t', entry)) :
    ∃ (c : Call) (next : c.Reply → Flow μ), t.rest = .call c next ∧ t.isWaiting = true ∧
      t' = { t with rest := next (reply c), isWaiting := false } ∧
      entry = .answered t.toStamp ⟨c, reply c⟩ := by
  unfold Task.answer? at h
  split at h
  · next c next hr hw =>
    cases h
    exact ⟨c, next, hr, hw, rfl, rfl⟩
  · cases h

theorem Task.result?_eq_some {t : Task μ} {m : μ} : t.result? = some m ↔ t.rest = .done m := by
  unfold Task.result?
  split
  · next n hr => simp [hr]
  · next c next hr => simp [hr]

theorem Runtime.advance_cases (number : Nat) (f : Task μ → Option (Task μ × Entry μ))
    (r : Runtime σ μ) :
    r.advance number f = r ∨
      ∃ as t bs t' entry, r.tasks = as ++ t :: bs ∧ t.number = number ∧
        f t = some (t', entry) ∧
        r.advance number f = Runtime.note entry { r with tasks := as ++ t' :: bs } := by
  unfold Runtime.advance
  cases hs : Task.split? number r.tasks with
  | none => exact .inl rfl
  | some cut =>
    obtain ⟨as, t, bs⟩ := cut
    obtain ⟨ht, hn⟩ := Task.split?_eq_some hs
    cases hf : f t with
    | none => exact .inl (by simp [hf])
    | some done => exact .inr ⟨as, t, bs, done.1, done.2, ht, hn, hf, by simp [hf]⟩

namespace Machine

/-- All that an event can do to the runtime `r`. -/
inductive Step (M : Machine ε σ μ) (r : Runtime σ μ) : Event ε μ → Runtime σ μ → Prop where
  | idle {e : Event ε μ} : Step M r e r
  | message {env : ε} {m : μ} : Step M r (.message env m) (M.handle env m (r.note (.message m)))
  | ask {as bs : List (Task μ)} {t : Task μ} {c : Call} {next : c.Reply → Flow μ} :
      r.tasks = as ++ t :: bs → t.rest = .call c next → t.isWaiting = false →
      Step M r (.ask t.number)
        (Runtime.note (.asked t.toStamp c)
          { r with tasks := as ++ { t with isWaiting := true } :: bs })
  | answer {as bs : List (Task μ)} {t : Task μ} {c : Call} {next : c.Reply → Flow μ}
      {reply : (c : Call) → c.Reply} :
      r.tasks = as ++ t :: bs → t.rest = .call c next → t.isWaiting = true →
      Step M r (.answer t.number reply)
        (Runtime.note (.answered t.toStamp ⟨c, reply c⟩)
          { r with tasks := as ++ { t with rest := next (reply c), isWaiting := false } :: bs })
  | deliver {env : ε} {as bs : List (Task μ)} {t : Task μ} {m : μ} :
      r.tasks = as ++ t :: bs → t.rest = .done m →
      Step M r (.deliver env t.number)
        (M.handle env m (Runtime.note (.delivered t.toStamp m) { r with tasks := as ++ bs }))

theorem step_sound (M : Machine ε σ μ) (r : Runtime σ μ) (e : Event ε μ) :
    Step M r e (M.step e r) := by
  cases e with
  | message env m => exact .message
  | ask number =>
    change Step M r _ (r.advance number Task.ask?)
    rcases r.advance_cases number Task.ask? with hi | ⟨as, t, bs, t', entry, ht, rfl, hf, he⟩
    · rw [hi]
      exact .idle
    · obtain ⟨c, next, hr, hw, rfl, rfl⟩ := Task.ask?_eq_some hf
      rw [he]
      exact .ask ht hr hw
  | answer number reply =>
    change Step M r _ (r.advance number (Task.answer? reply))
    rcases r.advance_cases number (Task.answer? reply) with
      hi | ⟨as, t, bs, t', entry, ht, rfl, hf, he⟩
    · rw [hi]
      exact .idle
    · obtain ⟨c, next, hr, hw, rfl, rfl⟩ := Task.answer?_eq_some hf
      rw [he]
      exact .answer ht hr hw
  | deliver env number =>
    simp only [step]
    split
    · exact .idle
    · next as t bs hs =>
      obtain ⟨ht, rfl⟩ := Task.split?_eq_some hs
      split
      · exact .idle
      · next m hm => exact .deliver ht (Task.result?_eq_some.1 hm)

variable {M : Machine ε σ μ} {offered : σ → μ → Prop} {a b c : Runtime σ μ}

theorem Reaches.trans (hab : M.Reaches offered a b) (hbc : M.Reaches offered b c) :
    M.Reaches offered a c := by
  induction hbc with
  | refl => exact hab
  | next e _ he ih => exact .next e ih he

theorem Reaches.message {m : μ} (ho : offered a.state m) (env : ε) :
    M.Reaches offered a (M.step (.message env m) a) :=
  .next _ .refl fun env' m' he => by
    cases he
    exact ho

/-- Offering more messages admits more runs. -/
theorem Reaches.mono {more : σ → μ → Prop} (h : ∀ s m, offered s m → more s m)
    (hab : M.Reaches offered a b) : M.Reaches more a b := by
  induction hab with
  | refl => exact .refl
  | next e _ he ih => exact .next e ih fun env m hm => h _ m (he env m hm)

/-- What holds at the beginning and is kept by every event that is possible holds all along. -/
theorem Reaches.invariant {P : Runtime σ μ → Prop} (h : M.Reaches offered a b) (ha : P a)
    (hstep : ∀ r e r', M.Reaches offered a r → M.Reaches offered a r' → P r → M.Step r e r' →
      (∀ env m, e = .message env m → offered r.state m) → P r') : P b := by
  induction h with
  | refl => exact ha
  | next e hr he ih => exact hstep _ e _ hr (.next e hr he) ih (M.step_sound _ e) he

/-- A list of events is a run if it keeps to the messages that are offered. -/
theorem reaches_run {P : μ → Prop} {events : List (Event ε μ)}
    (h : ∀ m ∈ events.filterMap Event.message?, P m) :
    M.Reaches (fun _ m => P m) a (M.run events a) := by
  induction events generalizing a with
  | nil => exact .refl
  | cons e events ih =>
    have hfirst : M.Reaches (fun _ m => P m) a (M.step e a) := by
      refine .next e .refl fun env m he => h m ?_
      simp [he, Event.message?]
    refine hfirst.trans (ih fun m hm => h m ?_)
    obtain ⟨e', he', hm'⟩ := List.mem_filterMap.1 hm
    exact List.mem_filterMap.2 ⟨e', List.mem_cons_of_mem e he', hm'⟩

section handle

variable (M) (env : ε) (m : μ) (r : Runtime σ μ)

@[simp] theorem handle_state : (M.handle env m r).state = (M.update env m r.state).1 := rfl

theorem handle_visit_same (h : M.turns m r.state (M.update env m r.state).1 = false) :
    (M.handle env m r).visit = r.visit :=
  if_neg (ne_true_of_eq_false h)

theorem handle_visit_next (h : M.turns m r.state (M.update env m r.state).1 = true) :
    (M.handle env m r).visit = r.visit + 1 :=
  if_pos h

theorem handle_tasks : (M.handle env m r).tasks = r.tasks ++
    M.tasksFor (M.update env m r.state).1 (M.handle env m r).visit (some m) r.started
      (flows (M.update env m r.state).2) := rfl

theorem handle_started : (M.handle env m r).started =
    r.started + (flows (M.update env m r.state).2).length := rfl

end handle

/-- What is known of a task that has just been started. -/
theorem mem_tasksFor {s : σ} {visit number : Nat} {origin : Option μ} {fs : List (Flow μ)}
    {t : Task μ} (h : t ∈ M.tasksFor s visit origin number fs) :
    t.work ∈ fs ∧ t.rest = t.work ∧ t.isWaiting = false ∧ t.origin = origin ∧
      t.session = M.session s ∧ t.visit = visit ∧
      number ≤ t.number ∧ t.number < number + fs.length := by
  induction fs generalizing number with
  | nil => cases h
  | cons f fs ih =>
    rcases List.mem_cons.1 h with rfl | h
    · simp
    · obtain ⟨hw, hr, hi, ho, hs, hv, hn, hl⟩ := ih h
      refine ⟨List.mem_cons_of_mem _ hw, hr, hi, ho, hs, hv, by omega, ?_⟩
      simp only [List.length_cons]
      omega

theorem tasksFor_numbers (s : σ) (visit number : Nat) (origin : Option μ) (fs : List (Flow μ)) :
    (M.tasksFor s visit origin number fs).map (·.number) = List.range' number fs.length := by
  induction fs generalizing number with
  | nil => rfl
  | cons f fs ih => simp [tasksFor, List.range', ih]

/-- Nothing is taken back from the log. -/
theorem Step.log_extends {r r' : Runtime σ μ} {e : Event ε μ} (h : M.Step r e r') :
    ∃ more, r'.log = r.log ++ more := by
  cases h with
  | idle => exact ⟨[], by simp⟩
  | message => exact ⟨[.message _], rfl⟩
  | ask _ _ _ => exact ⟨[.asked _ _], rfl⟩
  | answer _ _ _ => exact ⟨[.answered _ _], rfl⟩
  | deliver _ _ => exact ⟨[.delivered _ _], rfl⟩

theorem Reaches.log_extends (h : M.Reaches offered a b) : ∃ more, b.log = a.log ++ more := by
  refine h.invariant (P := fun r => ∃ more, r.log = a.log ++ more) ⟨[], by simp⟩
    fun r e r' _ _ hp hs _ => ?_
  obtain ⟨more, hlog⟩ := hp
  obtain ⟨more', hlog'⟩ := hs.log_extends
  exact ⟨more ++ more', by rw [hlog', hlog, List.append_assoc]⟩

end Machine

end TokenConsole
