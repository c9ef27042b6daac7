import TokenConsole.Proofs.Machine.Tasks

/-!
# Calls and the sessions they go over

A call goes over the session in which its task was started. So from some point on only newer
sessions are used if the state has moved on to one and no older task has a call to make.
-/
namespace TokenConsole

open TokenConsole.Gateway (Call Exchange Flow)

variable {ε σ μ : Type}

/-- The task has made the call that it had to make, or had none to make. -/
def Task.Begun (t : Task μ) : Prop := t.isWaiting = true ∨ ∃ m, t.rest = .done m

/-- The task makes no more calls. -/
structure Task.Spent (t : Task μ) : Prop where
  brief : t.rest.Brief
  begun : t.Begun

theorem Task.Begun.of_call {t : Task μ} (h : t.Begun) {c : Call} {next : c.Reply → Flow μ}
    (hc : t.rest = .call c next) : t.isWaiting = true := by
  rcases h with hw | ⟨m, hd⟩
  · exact hw
  · rw [hc] at hd
    cases hd

theorem Task.not_begun {t : Task μ} (h : ¬ t.Begun) :
    t.isWaiting = false ∧ ∃ (c : Call) (next : c.Reply → Flow μ), t.rest = .call c next := by
  unfold Begun at h
  push Not at h
  refine ⟨by simpa using h.1, ?_⟩
  cases hr : t.rest with
  | done m => exact absurd hr (h.2 m)
  | call c next => exact ⟨c, next, rfl⟩

theorem Task.Becomes.spent {more : List (Entry μ)} {t t' : Task μ} (h : t.Becomes more t')
    (ht : t.Spent) : t'.Spent := by
  cases h with
  | same => exact ht
  | asked hc hw _ =>
    rw [ht.begun.of_call hc] at hw
    cases hw
  | @answered c next r hc hw _ =>
    have hb := ht.brief
    rw [hc] at hb
    cases hb with
    | call hb =>
      obtain ⟨m, hm⟩ := hb r
      refine ⟨?_, .inr ⟨m, hm⟩⟩
      change (next r).Brief
      rw [hm]
      exact .done m

namespace Machine

variable {M : Machine ε σ μ} {offered : σ → μ → Prop} {a b r r' : Runtime σ μ} {e : Event ε μ}
  {old : Nat}

/-- Sessions are never given back. -/
def Advances (M : Machine ε σ μ) : Prop := ∀ env m s, M.session s ≤ M.session (M.update env m s).1

theorem Step.session_le (h : M.Step r e r') (hM : M.Advances) :
    M.session r.state ≤ M.session r'.state := by
  rcases h.state_eq with he | ⟨env, m, he⟩
  · exact Nat.le_of_eq (by rw [he])
  · rw [he]
    exact hM env m r.state

/-- No task runs over a session that is still to come. -/
theorem Reaches.session_le (h : M.Reaches offered a b) (hM : M.Advances)
    (ha : ∀ t ∈ a.tasks, t.session ≤ M.session a.state) :
    ∀ t ∈ b.tasks, t.session ≤ M.session b.state := by
  refine h.invariant (P := fun r => ∀ t ∈ r.tasks, t.session ≤ M.session r.state) ha
    fun r e r' _ _ hp hs _ t' ht' => ?_
  obtain ⟨more, -, htasks⟩ := hs.tasks
  rcases htasks t' ht' with ⟨t, ht, hb⟩ | hn
  · have hle := Nat.le_trans (hp t ht) (hs.session_le hM)
    rwa [← hb.stamp_eq] at hle
  · exact Nat.le_of_eq hn.session_eq

/-- Who makes a call: a task in flight that has not begun. -/
theorem Step.asked (h : M.Step r e r') : ∃ more, r'.log = r.log ++ more ∧
    ∀ s c, Entry.asked s c ∈ more → ∃ t ∈ r.tasks, t.toStamp = s ∧ ¬ t.Begun := by
  cases h with
  | idle => exact ⟨[], by simp, fun s c h => by cases h⟩
  | message => exact ⟨[.message _], rfl, fun s c h => by simp at h⟩
  | @ask as bs t c next ht hc hw =>
    refine ⟨[.asked t.toStamp c], rfl, fun s c' h => ⟨t, by simp [ht], ?_, fun hb => ?_⟩⟩
    · cases List.mem_singleton.1 h
      rfl
    · rw [hb.of_call hc] at hw
      cases hw
  | answer _ _ _ => exact ⟨[.answered _ _], rfl, fun s c h => by simp at h⟩
  | deliver _ _ => exact ⟨[.delivered _ _], rfl, fun s c h => by simp at h⟩

/-- Whatever run follows `a`, no call of it goes over the session `old` or an older one. -/
def Retires (M : Machine ε σ μ) (offered : σ → μ → Prop) (old : Nat) (a : Runtime σ μ) : Prop :=
  ∀ b more s c, M.Reaches offered a b → b.log = a.log ++ more → Entry.asked s c ∈ more →
    old < s.session

/-- If all tasks that may still make calls run over newer sessions, so do all calls to come. -/
theorem Reaches.asked_newer (h : M.Reaches offered a b) (hM : M.Advances)
    (hstate : old < M.session a.state) (htasks : ∀ t ∈ a.tasks, old < t.session ∨ t.Spent) :
    ∃ more, b.log = a.log ++ more ∧ ∀ s c, Entry.asked s c ∈ more → old < s.session := by
  suffices hall : old < M.session b.state ∧ (∀ t ∈ b.tasks, old < t.session ∨ t.Spent) ∧
      ∃ more, b.log = a.log ++ more ∧ ∀ s c, Entry.asked s c ∈ more → old < s.session from hall.2.2
  refine h.invariant (P := fun r => old < M.session r.state ∧
    (∀ t ∈ r.tasks, old < t.session ∨ t.Spent) ∧
    ∃ more, r.log = a.log ++ more ∧ ∀ s c, Entry.asked s c ∈ more → old < s.session)
    ⟨hstate, htasks, [], by simp, fun s c h => by cases h⟩ fun r e r' _ _ hp hs _ => ?_
  obtain ⟨hses, hts, more, hlog, hnew⟩ := hp
  have hses' : old < M.session r'.state := Nat.lt_of_lt_of_le hses (hs.session_le hM)
  refine ⟨hses', fun t' ht' => ?_, ?_⟩
  · obtain ⟨_, -, hbecomes⟩ := hs.tasks
    rcases hbecomes t' ht' with ⟨t, ht, hb⟩ | hn
    · refine (hts t ht).imp (fun h => ?_) hb.spent
      rwa [hb.stamp_eq]
    · exact .inl (by rw [hn.session_eq]; exact hses')
  · -- A call comes from a task that has not begun, and so not from a spent one.
    obtain ⟨more', hlog', hasked⟩ := hs.asked
    refine ⟨more ++ more', by rw [hlog', hlog, List.append_assoc], fun s c hc => ?_⟩
    rcases List.mem_append.1 hc with hc | hc
    · exact hnew s c hc
    · obtain ⟨t, ht, rfl, hb⟩ := hasked s c hc
      exact (hts t ht).resolve_right fun hspent => hb hspent.begun

theorem retires_of_newer (hM : M.Advances) (hstate : old < M.session a.state)
    (htasks : ∀ t ∈ a.tasks, old < t.session ∨ t.Spent) : M.Retires offered old a := by
  intro b more s c hb hlog hc
  obtain ⟨more', hlog', hnew⟩ := hb.asked_newer hM hstate htasks
  rw [List.append_cancel_left (hlog.symm.trans hlog')] at hc
  exact hnew s c hc

/-- A task in flight that has not begun can make its call. -/
theorem Numbered.ask (h : Numbered r) {t : Task μ} (ht : t ∈ r.tasks) (hb : ¬ t.Begun) :
    ∃ c, (M.step (.ask t.number) r).log = r.log ++ [.asked t.toStamp c] := by
  obtain ⟨hw, c, next, hc⟩ := Task.not_begun hb
  obtain ⟨as, bs, -, hsplit⟩ := h.cut ht
  refine ⟨c, ?_⟩
  have hask : t.ask? = some ({ t with isWaiting := true }, .asked t.toStamp c) := by
    unfold Task.ask?
    rw [hc, hw]
  change (r.advance t.number Task.ask?).log = _
  unfold Runtime.advance
  rw [hsplit]
  simp only [hask]
  rfl

/-- A session is not retired while a task over it has not begun. -/
theorem Numbered.not_retires (h : Numbered b) (hb : M.Reaches offered a b) {more : List (Entry μ)}
    (hlog : b.log = a.log ++ more) {t : Task μ} (ht : t ∈ b.tasks) (hnot : ¬ t.Begun)
    (hold : t.session ≤ old) : ¬ M.Retires offered old a := by
  intro hret
  obtain ⟨c, hask⟩ := h.ask (M := M) ht hnot
  have hlast : (M.step (.ask t.number) b).log = a.log ++ (more ++ [.asked t.toStamp c]) := by
    rw [hask, hlog, List.append_assoc]
  have hlt := hret _ _ t.toStamp c (.next (.ask t.number) hb fun env m he => by cases he) hlast
    (by simp)
  omega

theorem mem_tasksFor_of_mem {s : σ} {visit number : Nat} {origin : Option μ} {fs : List (Flow μ)}
    {f : Flow μ} (h : f ∈ fs) : ∃ t ∈ M.tasksFor s visit origin number fs, t.rest = f ∧
      t.isWaiting = false ∧ t.session = M.session s ∧ number ≤ t.number := by
  induction fs generalizing number with
  | nil => cases h
  | cons g fs ih =>
    rcases List.mem_cons.1 h with rfl | h
    · exact ⟨_, List.mem_cons_self, rfl, rfl, rfl, Nat.le_refl number⟩
    · obtain ⟨t, ht, hrest, hw, hs, hle⟩ := @ih (number + 1) h
      exact ⟨t, List.mem_cons_of_mem _ ht, hrest, hw, hs, by omega⟩

/-- Each flow that a message asks for is started. -/
theorem handle_starts {env : ε} {m : μ} {f : Flow μ} (h : f ∈ flows (M.update env m r.state).2) :
    ∃ t ∈ (M.handle env m r).tasks, t.rest = f ∧ t.isWaiting = false ∧
      t.session = M.session (M.handle env m r).state ∧ r.started ≤ t.number := by
  obtain ⟨t, ht, hrest⟩ := mem_tasksFor_of_mem (M := M) h
  exact ⟨t, List.mem_append_right _ ht, hrest⟩

end Machine

end TokenConsole
