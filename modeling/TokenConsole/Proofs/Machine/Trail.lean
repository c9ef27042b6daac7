import Mathlib.Data.List.Induction
import Mathlib.Data.List.Nodup
import TokenConsole.Proofs.Machine.Tasks

/-!
# Where calls come from

The trail of a run has the messages that the machine handled, each with the runtime in which it did.
Every call that is made goes back to one of them: it was made by a flow which that message started,
after the answers that the flow had heard until then.
-/
namespace TokenConsole

open TokenConsole.Gateway (Call Exchange Flow)

variable {ε σ μ : Type}

/-- The entry is about a call of the task of a number. -/
def Entry.isTalk (number : Nat) : Entry μ → Bool
  | .asked s _ | .answered s _ => s.number = number
  | _ => false

/-- The calls of the task of a number, and their answers. -/
def about (number : Nat) (log : List (Entry μ)) : List (Entry μ) := log.filter (·.isTalk number)

/-- The entries about calls that were made and answered. -/
def talk (s : Stamp μ) (xs : List Exchange) : List (Entry μ) :=
  xs.flatMap fun x => [.asked s x.call, .answered s x]

/-- A list cut at one of its elements: at the last one, or before it. -/
theorem cut_of_snoc {α : Type} {l past later : List α} {x y : α}
    (h : l ++ [y] = past ++ x :: later) :
    (l = past ∧ y = x) ∨ ∃ later', l = past ++ x :: later' := by
  rcases List.eq_nil_or_concat later with rfl | ⟨later', z, rfl⟩
  · obtain ⟨hpast, hy⟩ := List.append_inj' h rfl
    exact .inl ⟨hpast, (List.cons.inj hy).1⟩
  · rw [List.concat_eq_append, ← List.cons_append, ← List.append_assoc] at h
    exact .inr ⟨later', (List.append_inj' h rfl).1⟩

/-- The message that a machine handles, and the runtime in which it does. -/
structure Handling (ε σ μ : Type) where
  env : ε
  message : μ
  before : Runtime σ μ

namespace Machine

variable {M : Machine ε σ μ} {a r r' : Runtime σ μ} {e : Event ε μ}

/-- What is handled at an event, if anything is. -/
def handling? (e : Event ε μ) (r : Runtime σ μ) : Option (Handling ε σ μ) :=
  match e with
  | .message env m => some ⟨env, m, r.note (.message m)⟩
  | .deliver env number =>
    match Task.split? number r.tasks with
    | none => none
    | some (as, t, bs) =>
      t.result?.map fun m =>
        ⟨env, m, Runtime.note (.delivered t.toStamp m) { r with tasks := as ++ bs }⟩
  | _ => none

variable (M) in
/-- All that was handled in the course of some events, in its order. -/
def trail : List (Event ε μ) → Runtime σ μ → List (Handling ε σ μ)
  | [], _ => []
  | e :: events, r => (handling? e r).toList ++ trail events (M.step e r)

theorem run_append (es es' : List (Event ε μ)) : M.run (es ++ es') r = M.run es' (M.run es r) :=
  List.foldl_append

theorem run_snoc (es : List (Event ε μ)) : M.run (es ++ [e]) r = M.step e (M.run es r) := by
  rw [run_append]
  rfl

theorem trail_snoc (es : List (Event ε μ)) :
    trail M (es ++ [e]) r = trail M es r ++ (handling? e (M.run es r)).toList := by
  induction es generalizing r with
  | nil => exact List.append_nil _
  | cons e' es ih =>
    rw [List.cons_append, trail, ih, trail, List.append_assoc]
    rfl

/-- Each message is handled at an event of the run, after all that stand before it in the trail. -/
theorem trail_split {events : List (Event ε μ)} {past later : List (Handling ε σ μ)}
    {x : Handling ε σ μ} (h : trail M events a = past ++ x :: later) :
    ∃ es e, trail M es a = past ∧ handling? e (M.run es a) = some x := by
  induction events using List.reverseRecOn generalizing later with
  | nil => simp [trail] at h
  | append_singleton es e ih =>
    rw [trail_snoc] at h
    cases hx : handling? e (M.run es a) with
    | none =>
      rw [hx, Option.toList_none, List.append_nil] at h
      exact ih h
    | some y =>
      rw [hx, Option.toList_some] at h
      rcases cut_of_snoc h with ⟨hpast, rfl⟩ | ⟨later', h⟩
      · exact ⟨es, e, hpast, hx⟩
      · exact ih h

/-- The runtime in which a message is handled differs from `r` in what is known and in flight: the
log has one more entry, and a task may have ended. -/
structure Continues (r : Runtime σ μ) (x : Handling ε σ μ) : Prop where
  state : x.before.state = r.state
  started : x.before.started = r.started
  visit : x.before.visit = r.visit
  tasks : x.before.tasks.Sublist r.tasks
  log : ∃ entry, x.before.log = r.log ++ [entry] ∧ ∀ number, entry.isTalk number = false

/-- What an event amounts to: nothing, a call, an answer, or a message that is handled. -/
inductive Move (M : Machine ε σ μ) (r : Runtime σ μ) :
    Option (Handling ε σ μ) → Runtime σ μ → Prop where
  | idle : Move M r none r
  | ask {as bs : List (Task μ)} {t : Task μ} {c : Call} {next : c.Reply → Flow μ} :
      r.tasks = as ++ t :: bs → t.rest = .call c next → t.isWaiting = false →
      Move M r none (Runtime.note (.asked t.toStamp c)
        { r with tasks := as ++ { t with isWaiting := true } :: bs })
  | answer {as bs : List (Task μ)} {t : Task μ} {c : Call} {next : c.Reply → Flow μ}
      {reply : (c : Call) → c.Reply} :
      r.tasks = as ++ t :: bs → t.rest = .call c next → t.isWaiting = true →
      Move M r none (Runtime.note (.answered t.toStamp ⟨c, reply c⟩)
        { r with tasks := as ++ { t with rest := next (reply c), isWaiting := false } :: bs })
  | handle {x : Handling ε σ μ} : Continues r x →
      Move M r (some x) (M.handle x.env x.message x.before)

theorem move_sound (M : Machine ε σ μ) (e : Event ε μ) (r : Runtime σ μ) :
    Move M r (handling? e r) (M.step e r) := by
  cases e with
  | message env m =>
    exact .handle ⟨rfl, rfl, rfl, List.Sublist.refl _, _, rfl, fun _ => rfl⟩
  | ask number =>
    have hs := M.step_sound r (.ask number)
    generalize M.step (.ask number) r = r' at hs ⊢
    cases hs with
    | idle => exact .idle
    | ask ht hc hw => exact .ask ht hc hw
  | answer number reply =>
    have hs := M.step_sound r (.answer number reply)
    generalize M.step (.answer number reply) r = r' at hs ⊢
    cases hs with
    | idle => exact .idle
    | answer ht hc hw => exact .answer ht hc hw
  | deliver env number =>
    cases hcut : Task.split? number r.tasks with
    | none =>
      simp only [step, handling?, hcut]
      exact .idle
    | some cut =>
      obtain ⟨as, t, bs⟩ := cut
      obtain ⟨ht, -⟩ := Task.split?_eq_some hcut
      cases hm : t.result? with
      | none =>
        simp only [step, handling?, hcut, hm]
        exact .idle
      | some m =>
        simp only [step, handling?, hcut, hm]
        refine .handle ⟨rfl, rfl, rfl, ?_, .delivered t.toStamp m, rfl, fun _ => rfl⟩
        rw [ht]
        exact (List.sublist_cons_self t bs).append_left as

theorem continues_of_handling (M : Machine ε σ μ) {x : Handling ε σ μ}
    (h : handling? e r = some x) : Continues r x := by
  have hm := move_sound M e r
  rw [h] at hm
  generalize M.step e r = r' at hm
  cases hm with
  | handle hx => exact hx

end Machine

/-! ### Calls go back to messages -/

/-- The message has started the flow `f`, as the task with the stamp `s`. -/
structure Handling.Launches (M : Machine ε σ μ) (x : Handling ε σ μ) (s : Stamp μ) (f : Flow μ) :
    Prop where
  origin : s.origin = some x.message
  above : x.before.started ≤ s.number
  below : s.number < (M.handle x.env x.message x.before).started
  work : f ∈ flows (M.update x.env x.message x.before.state).2

/-- The call of a task that waits for an answer. -/
def Task.pending (t : Task μ) : List (Entry μ) :=
  match t.rest, t.isWaiting with
  | .call c _, true => [.asked t.toStamp c]
  | _, _ => []

theorem Task.pending_of_waiting {t : Task μ} {c : Call} {next : c.Reply → Flow μ}
    (hc : t.rest = .call c next) (hw : t.isWaiting = true) :
    t.pending = [.asked t.toStamp c] := by
  rw [pending, hc, hw]

theorem Task.pending_of_idle {t : Task μ} (hw : t.isWaiting = false) : t.pending = [] := by
  rw [pending, hw]
  cases t.rest <;> rfl

/-- The log has all that the task has asked and heard. -/
def Task.Logged (log : List (Entry μ)) (t : Task μ) : Prop :=
  ∃ xs, Flow.Hears t.work xs t.rest ∧ about t.number log = talk t.toStamp xs ++ t.pending

theorem talk_snoc (s : Stamp μ) (xs : List Exchange) (x : Exchange) :
    talk s (xs ++ [x]) = talk s xs ++ [.asked s x.call, .answered s x] := by
  simp [talk]

theorem about_snoc_of_talk {number : Nat} {entry : Entry μ} (h : entry.isTalk number = true)
    (log : List (Entry μ)) : about number (log ++ [entry]) = about number log ++ [entry] := by
  simp [about, h]

theorem about_snoc_of_other {number : Nat} {entry : Entry μ} (h : entry.isTalk number = false)
    (log : List (Entry μ)) : about number (log ++ [entry]) = about number log := by
  simp [about, h]

namespace Machine

/-- The call `c` of the task with the stamp `s`, made when the log was `log`, goes back to a message
of the trail. -/
def Called (M : Machine ε σ μ) (tr : List (Handling ε σ μ)) (log : List (Entry μ)) (s : Stamp μ)
    (c : Call) : Prop :=
  ∃ x ∈ tr, ∃ f xs, x.Launches M s f ∧ f.Asks xs c ∧ about s.number log = talk s xs

/-- The trail accounts for all tasks in flight and for all calls that were made. -/
structure Traced (M : Machine ε σ μ) (tr : List (Handling ε σ μ)) (r : Runtime σ μ) : Prop where
  numbered : Numbered r
  launched : ∀ t ∈ r.tasks, ∃ x ∈ tr, x.Launches M t.toStamp t.work
  logged : ∀ t ∈ r.tasks, t.Logged r.log
  silent : ∀ number, r.started ≤ number → about number r.log = []
  called : ∀ before s c more, r.log = before ++ .asked s c :: more → Called M tr before s c

section

variable {M : Machine ε σ μ} {r r' : Runtime σ μ} {tr : List (Handling ε σ μ)}
  {as bs : List (Task μ)} {t t' : Task μ} {entry : Entry μ}

theorem Numbered.apart (h : Numbered r) (ht : r.tasks = as ++ t :: bs) :
    ∀ u ∈ as ++ bs, u.number ≠ t.number := by
  have hn := h.nodup
  rw [ht, List.map_append, List.map_cons, List.nodup_middle] at hn
  intro u hu he
  refine (List.nodup_cons.1 hn).1 ?_
  rw [← he, ← List.map_append]
  exact List.mem_map_of_mem hu

theorem Continues.numbered {x : Handling ε σ μ} (hx : Continues r x) (h : Numbered r) :
    Numbered x.before :=
  ⟨h.nodup.sublist (hx.tasks.map _), fun t ht => hx.started ▸ h.below t (hx.tasks.mem ht)⟩

/-- Calls before the last entry of the log are accounted for already. -/
theorem Traced.called_snoc (h : Traced M tr r)
    (hcalled : ∀ s c, entry = .asked s c → Called M tr r.log s c) :
    ∀ before s c more, r.log ++ [entry] = before ++ .asked s c :: more →
      Called M tr before s c := by
  intro before s c more hlog
  rcases cut_of_snoc hlog with ⟨rfl, he⟩ | ⟨more', hlog⟩
  · exact hcalled s c he
  · exact h.called before s c more' hlog

/-- One task moves on, and the log tells of it. -/
theorem Traced.advance (h : Traced M tr r) (ht : r.tasks = as ++ t :: bs)
    (hs : t'.toStamp = t.toStamp) (hw : t'.work = t.work)
    (hentry : ∀ number, number ≠ t.number → entry.isTalk number = false)
    (hlogged : t'.Logged (r.log ++ [entry]))
    (hcalled : ∀ s c, entry = .asked s c → Called M tr r.log s c) :
    Traced M tr (Runtime.note entry { r with tasks := as ++ t' :: bs }) := by
  have hmem : t ∈ r.tasks := by simp [ht]
  have hnumber : t'.number = t.number := congrArg Stamp.number hs
  refine ⟨h.numbered.replace ht hnumber entry, fun u hu => ?_, fun u hu => ?_, fun n hn => ?_,
    h.called_snoc hcalled⟩
  · rcases Task.mem_replace hu with rfl | hu
    · rw [hs, hw]
      exact h.launched t hmem
    · exact h.launched u (ht ▸ hu)
  · by_cases hu' : u = t'
    · exact hu' ▸ hlogged
    · have hrest : u ∈ as ++ bs := by
        change u ∈ as ++ t' :: bs at hu
        simp only [List.mem_append, List.mem_cons] at hu ⊢
        exact hu.imp id fun hu => hu.resolve_left hu'
      have hold : u ∈ r.tasks := by
        rw [ht]
        simp only [List.mem_append, List.mem_cons] at hrest ⊢
        exact hrest.imp id .inr
      have hne : u.number ≠ t.number := h.numbered.apart ht u hrest
      obtain ⟨xs, hx, habout⟩ := h.logged u hold
      exact ⟨xs, hx, (about_snoc_of_other (hentry _ hne) r.log).trans habout⟩
  · have hlt := h.numbered.below t hmem
    have hne : n ≠ t.number := by
      have hle : r.started ≤ n := hn
      omega
    exact (about_snoc_of_other (hentry n hne) r.log).trans (h.silent n hn)

/-- A message is handled: it may start tasks, and none of them has made a call yet. -/
theorem Traced.handle (h : Traced M tr r) {x : Handling ε σ μ} (hx : Continues r x) :
    Traced M (tr ++ [x]) (M.handle x.env x.message x.before) := by
  obtain ⟨entry, hlog, hentry⟩ := hx.log
  have habout : ∀ n, about n x.before.log = about n r.log := fun n => by
    rw [hlog, about_snoc_of_other (hentry n)]
  have hlog' : (M.handle x.env x.message x.before).log = r.log ++ [entry] := hlog
  refine ⟨numbered_handle (hx.numbered h.numbered), fun t ht => ?_, fun t ht => ?_, fun n hn => ?_,
    fun before s c more hcut => ?_⟩
  · rw [handle_tasks] at ht
    rcases List.mem_append.1 ht with ht | ht
    · obtain ⟨y, hy, hl⟩ := h.launched t (hx.tasks.mem ht)
      exact ⟨y, List.mem_append_left _ hy, hl⟩
    · obtain ⟨hw, -, -, ho, -, -, hle, hlt⟩ := mem_tasksFor ht
      exact ⟨x, by simp, ho, hle, hlt, hw⟩
  · change Task.Logged x.before.log t
    rw [Task.Logged, habout]
    rw [handle_tasks] at ht
    rcases List.mem_append.1 ht with ht | ht
    · exact h.logged t (hx.tasks.mem ht)
    · obtain ⟨-, hr, hi, -, -, -, hle, -⟩ := mem_tasksFor ht
      refine ⟨[], by rw [hr]; exact .refl _, ?_⟩
      rw [Task.pending_of_idle hi, h.silent t.number (hx.started ▸ hle)]
      rfl
  · change about n x.before.log = []
    have hle : x.before.started ≤ n := Nat.le_trans (Nat.le_add_right _ _) hn
    rw [habout, h.silent n (hx.started ▸ hle)]
  · rw [hlog'] at hcut
    have hold := h.called_snoc (fun s c he => ?_) before s c more hcut
    · obtain ⟨y, hy, hrest⟩ := hold
      exact ⟨y, List.mem_append_left _ hy, hrest⟩
    · have htalk := hentry s.number
      rw [he] at htalk
      simp [Entry.isTalk] at htalk

theorem Move.traced {x : Option (Handling ε σ μ)} (hm : Move M r x r') (h : Traced M tr r) :
    Traced M (tr ++ x.toList) r' := by
  cases hm with
  | idle =>
    rw [Option.toList_none, List.append_nil]
    exact h
  | @ask as bs t c next ht hc hw =>
    rw [Option.toList_none, List.append_nil]
    have hmem : t ∈ r.tasks := by simp [ht]
    obtain ⟨xs, hx, habout⟩ := h.logged t hmem
    rw [Task.pending_of_idle hw, List.append_nil] at habout
    have hself : (Entry.asked t.toStamp c).isTalk t.number = true := by simp [Entry.isTalk]
    refine h.advance ht rfl rfl (fun n hn => by simpa [Entry.isTalk] using hn.symm)
      ⟨xs, hx, ?_⟩ fun s c' he => ?_
    · have hpending : Task.pending { t with isWaiting := true } = [.asked t.toStamp c] :=
        Task.pending_of_waiting hc rfl
      change about t.number (r.log ++ [.asked t.toStamp c]) = _
      rw [about_snoc_of_talk hself, habout, hpending]
    · cases he
      obtain ⟨y, hy, hl⟩ := h.launched t hmem
      exact ⟨y, hy, t.work, xs, hl, ⟨next, hc ▸ hx⟩, habout⟩
  | @answer as bs t c next reply ht hc hw =>
    rw [Option.toList_none, List.append_nil]
    have hmem : t ∈ r.tasks := by simp [ht]
    obtain ⟨xs, hx, habout⟩ := h.logged t hmem
    rw [Task.pending_of_waiting hc hw] at habout
    have hself : (Entry.answered t.toStamp ⟨c, reply c⟩).isTalk t.number = true := by
      simp [Entry.isTalk]
    refine h.advance ht rfl rfl (fun n hn => by simpa [Entry.isTalk] using hn.symm)
      ⟨xs ++ [⟨c, reply c⟩], (hc ▸ hx).snoc _, ?_⟩ fun s c' he => by cases he
    change about t.number (r.log ++ [.answered t.toStamp ⟨c, reply c⟩]) = _
    rw [about_snoc_of_talk hself, habout, talk_snoc, Task.pending_of_idle rfl, List.append_nil,
      List.append_assoc]
    rfl
  | handle hx => exact h.handle hx

theorem traced_begin (s : σ) : Traced M [] (M.begin s []) where
  numbered := numbered_begin s []
  launched t ht := by cases ht
  logged t ht := by cases ht
  silent _ _ := rfl
  called before s' c more hlog := by
    have hempty : (M.begin s []).log = [] := rfl
    rw [hempty] at hlog
    simp at hlog

/-- A run that begins without tasks is accounted for by its trail. -/
theorem traced_run (events : List (Event ε μ)) (s : σ) :
    Traced M (trail M events (M.begin s [])) (M.run events (M.begin s [])) := by
  induction events using List.reverseRecOn with
  | nil => exact traced_begin s
  | append_singleton events e ih =>
    rw [trail_snoc, run_snoc]
    exact (M.move_sound e _).traced ih

end

end Machine

end TokenConsole
