import TokenConsole.Proofs.Machine.Steps

/-!
# What becomes of tasks

A task keeps its stamp and its work as long as it is in flight. So a fact about all tasks is
proved from what one event makes of one task, and a fact about the number of tasks from the jobs
that a message adds and that a report takes away.
-/
namespace TokenConsole

open TokenConsole.Gateway (Call Exchange Flow)

variable {ε σ μ : Type}

/-- What an event that adds `more` to the log makes of a task that stays in flight. -/
inductive Task.Becomes (more : List (Entry μ)) (t : Task μ) : Task μ → Prop where
  | same : Becomes more t t
  | asked {c : Call} {next : c.Reply → Flow μ} :
      t.rest = .call c next → t.isWaiting = false → more = [.asked t.toStamp c] →
      Becomes more t { t with isWaiting := true }
  | answered {c : Call} {next : c.Reply → Flow μ} {r : c.Reply} :
      t.rest = .call c next → t.isWaiting = true → more = [.answered t.toStamp ⟨c, r⟩] →
      Becomes more t { t with rest := next r, isWaiting := false }

theorem Task.Becomes.stamp_eq {more : List (Entry μ)} {t t' : Task μ} (h : t.Becomes more t') :
    t'.toStamp = t.toStamp := by
  cases h <;> rfl

theorem Task.Becomes.work_eq {more : List (Entry μ)} {t t' : Task μ} (h : t.Becomes more t') :
    t'.work = t.work := by
  cases h <;> rfl

namespace Machine

variable {M : Machine ε σ μ} {offered : σ → μ → Prop} {a b r r' : Runtime σ μ} {e : Event ε μ}

/-- `t` was started by the message that led from `r` to `r'`. -/
structure Starts (M : Machine ε σ μ) (r r' : Runtime σ μ) (t : Task μ) : Prop where
  rest_eq : t.rest = t.work
  idle : t.isWaiting = false
  session_eq : t.session = M.session r'.state
  visit_eq : t.visit = r'.visit
  number_ge : r.started ≤ t.number
  source : ∃ env m, t.origin = some m ∧ r'.state = (M.update env m r.state).1 ∧
    t.work ∈ flows (M.update env m r.state).2

theorem mem_tasks_handle {env : ε} {m : μ} {t : Task μ} (h : t ∈ (M.handle env m r).tasks) :
    t ∈ r.tasks ∨ M.Starts r (M.handle env m r) t := by
  rw [handle_tasks] at h
  refine (List.mem_append.1 h).imp id fun ht => ?_
  obtain ⟨hw, hr, hi, ho, hs, hv, hn, -⟩ := mem_tasksFor ht
  exact ⟨hr, hi, hs, hv, hn, env, m, ho, rfl, hw⟩

/-- Each task in flight after an event was in flight before or has just been started. -/
theorem Step.tasks (h : M.Step r e r') : ∃ more, r'.log = r.log ++ more ∧
    ∀ t' ∈ r'.tasks, (∃ t ∈ r.tasks, t.Becomes more t') ∨ M.Starts r r' t' := by
  cases h with
  | idle => exact ⟨[], by simp, fun t ht => .inl ⟨t, ht, .same⟩⟩
  | message =>
    refine ⟨[.message _], rfl, fun t ht => ?_⟩
    exact (mem_tasks_handle ht).imp (fun h => ⟨t, h, .same⟩) fun h => ⟨h.1, h.2, h.3, h.4, h.5, h.6⟩
  | @ask as bs t c next hr hc hw =>
    refine ⟨[.asked t.toStamp c], rfl, fun u hu => .inl ?_⟩
    rcases Task.mem_replace hu with rfl | hu
    · exact ⟨t, by simp [hr], .asked hc hw rfl⟩
    · exact ⟨u, hr ▸ hu, .same⟩
  | @answer as bs t c next reply hr hc hw =>
    refine ⟨[.answered t.toStamp ⟨c, reply c⟩], rfl, fun u hu => .inl ?_⟩
    rcases Task.mem_replace hu with rfl | hu
    · exact ⟨t, by simp [hr], .answered hc hw rfl⟩
    · exact ⟨u, hr ▸ hu, .same⟩
  | @deliver env as bs t m hr hd =>
    refine ⟨[.delivered t.toStamp m], rfl, fun u hu => ?_⟩
    rcases mem_tasks_handle hu with hu | hs
    · refine .inl ⟨u, ?_, .same⟩
      rcases List.mem_append.1 hu with hu | hu <;> simp [hr, hu]
    · exact .inr ⟨hs.1, hs.2, hs.3, hs.4, hs.5, hs.6⟩

/-- Tasks are numbered apart, in the order of their start. -/
structure Numbered (r : Runtime σ μ) : Prop where
  nodup : (r.tasks.map (·.number)).Nodup
  below : ∀ t ∈ r.tasks, t.number < r.started

theorem numbered_handle {env : ε} {m : μ} (h : Numbered r) : Numbered (M.handle env m r) := by
  constructor
  · rw [handle_tasks, List.map_append, tasksFor_numbers, List.nodup_append]
    refine ⟨h.nodup, List.nodup_range', fun n hn k hk => ?_⟩
    obtain ⟨t, ht, rfl⟩ := List.mem_map.1 hn
    have := h.below t ht
    have := List.mem_range'_1.1 hk
    omega
  · intro t ht
    rw [handle_started]
    rcases List.mem_append.1 ht with ht | ht
    · have := h.below t ht
      omega
    · obtain ⟨-, -, -, -, -, -, -, hl⟩ := mem_tasksFor ht
      exact hl

theorem Numbered.replace (h : Numbered r) {as bs : List (Task μ)} {t t' : Task μ}
    (ht : r.tasks = as ++ t :: bs) (hn : t'.number = t.number) (entry : Entry μ) :
    Numbered (Runtime.note entry { r with tasks := as ++ t' :: bs }) := by
  constructor
  · simpa [ht, hn, Runtime.note] using h.nodup
  · intro u hu
    rcases Task.mem_replace hu with rfl | hu
    · exact hn ▸ h.below t (by simp [ht])
    · exact h.below u (ht ▸ hu)

theorem Step.numbered (h : M.Step r e r') (hn : Numbered r) : Numbered r' := by
  cases h with
  | idle => exact hn
  | message => exact numbered_handle ⟨hn.nodup, hn.below⟩
  | ask ht hc hw =>
    apply hn.replace ht
    rfl
  | answer ht hc hw =>
    apply hn.replace ht
    rfl
  | deliver hr hd =>
    refine numbered_handle ⟨?_, fun u hu => hn.below u ?_⟩
    · refine List.Nodup.sublist ?_ hn.nodup
      rw [hr]
      exact ((List.sublist_cons_self _ _).append_left _).map _
    · rw [hr]
      rcases List.mem_append.1 hu with hu | hu <;> simp [hu]

theorem numbered_begin (s : σ) (effects : List (Effect μ)) : Numbered (M.begin s effects) := by
  constructor
  · simp only [begin, launch, List.nil_append, tasksFor_numbers]
    exact List.nodup_range'
  · intro t ht
    obtain ⟨-, -, -, -, -, -, -, hl⟩ := mem_tasksFor (by simpa [begin, launch] using ht)
    exact hl

theorem Numbered.cut (h : Numbered r) {t : Task μ} (ht : t ∈ r.tasks) :
    ∃ as bs, r.tasks = as ++ t :: bs ∧ Task.split? t.number r.tasks = some (as, t, bs) := by
  obtain ⟨as, bs, hr⟩ := List.append_of_mem ht
  refine ⟨as, bs, hr, ?_⟩
  rw [hr]
  apply Task.split?_append
  intro a ha he
  have hn := h.nodup
  rw [hr, List.map_append, List.nodup_append] at hn
  exact hn.2.2 _ (List.mem_map_of_mem ha) _ (by simp) he

theorem Reaches.numbered (h : M.Reaches offered a b) (ha : Numbered a) : Numbered b :=
  h.invariant ha fun _ _ _ _ _ hn hs _ => hs.numbered hn

/-- A task that has ended can hand over its message. -/
theorem step_deliver {as bs : List (Task μ)} {t : Task μ} {m : μ}
    (hs : Task.split? t.number r.tasks = some (as, t, bs)) (hd : t.rest = .done m) (env : ε) :
    M.step (.deliver env t.number) r =
      M.handle env m (Runtime.note (.delivered t.toStamp m) { r with tasks := as ++ bs }) := by
  simp only [step, hs, Task.result?_eq_some.2 hd]

theorem Step.state_eq (h : M.Step r e r') :
    r'.state = r.state ∨ ∃ env m, r'.state = (M.update env m r.state).1 := by
  cases h with
  | message => exact .inr ⟨_, _, rfl⟩
  | deliver _ _ => exact .inr ⟨_, _, rfl⟩
  | _ => exact .inl rfl

theorem Step.started_le (h : M.Step r e r') : r.started ≤ r'.started := by
  cases h with
  | message => exact Nat.le_add_right _ _
  | deliver _ _ => exact Nat.le_add_right _ _
  | _ => exact Nat.le_refl _

/-- A task that is older than `a` was in flight there. -/
theorem Reaches.older (h : M.Reaches offered a b) : ∀ t ∈ b.tasks, t.number < a.started →
    ∃ u ∈ a.tasks, u.toStamp = t.toStamp ∧ u.work = t.work := by
  suffices hall : a.started ≤ b.started ∧ ∀ t ∈ b.tasks, t.number < a.started →
      ∃ u ∈ a.tasks, u.toStamp = t.toStamp ∧ u.work = t.work from hall.2
  refine h.invariant (P := fun r => a.started ≤ r.started ∧ ∀ t ∈ r.tasks, t.number < a.started →
    ∃ u ∈ a.tasks, u.toStamp = t.toStamp ∧ u.work = t.work)
    ⟨Nat.le_refl _, fun t ht _ => ⟨t, ht, rfl, rfl⟩⟩ fun r e r' _ _ hp hs _ =>
    ⟨Nat.le_trans hp.1 hs.started_le, fun t' ht' hlt => ?_⟩
  obtain ⟨more, -, htasks⟩ := hs.tasks
  rcases htasks t' ht' with ⟨t, ht, hb⟩ | hn
  · rw [hb.stamp_eq] at hlt
    obtain ⟨u, hu, hstamp, hwork⟩ := hp.2 t ht hlt
    exact ⟨u, hu, hstamp.trans hb.stamp_eq.symm, hwork.trans hb.work_eq.symm⟩
  · have hge := hn.number_ge
    have hle := hp.1
    omega

/-- The task of a stamp has not handed over its message yet: it is in flight or still to come. -/
def Pending (r : Runtime σ μ) (s : Stamp μ) : Prop :=
  r.started ≤ s.number ∨ ∃ t ∈ r.tasks, t.toStamp = s

/-- What is handed over after `a` was still to be handed over at `a`. -/
theorem Reaches.delivered_since (h : M.Reaches offered a b) : ∃ more, b.log = a.log ++ more ∧
    ∀ s m, Entry.delivered s m ∈ more → Pending a s := by
  refine h.invariant (P := fun r => ∃ more, r.log = a.log ++ more ∧
    ∀ s m, Entry.delivered s m ∈ more → Pending a s)
    ⟨[], by simp, fun s m hm => by cases hm⟩ fun r e r' hr _ hp hs _ => ?_
  obtain ⟨more, hlog, hold⟩ := hp
  suffices hnew : ∃ new, r'.log = r.log ++ new ∧
      ∀ s m, Entry.delivered s m ∈ new → Pending a s by
    obtain ⟨new, hlog', hnew⟩ := hnew
    refine ⟨more ++ new, by rw [hlog', hlog, List.append_assoc], fun s m hm => ?_⟩
    exact (List.mem_append.1 hm).elim (hold s m) (hnew s m)
  cases hs with
  | idle => exact ⟨[], by simp, fun s m hm => by cases hm⟩
  | message => exact ⟨[.message _], rfl, fun s m hm => by simp at hm⟩
  | ask _ _ _ => exact ⟨[.asked _ _], rfl, fun s m hm => by simp at hm⟩
  | answer _ _ _ => exact ⟨[.answered _ _], rfl, fun s m hm => by simp at hm⟩
  | @deliver env as bs t m ht hd =>
    refine ⟨[.delivered t.toStamp m], rfl, fun s m' hm => ?_⟩
    cases List.mem_singleton.1 hm
    rcases Nat.lt_or_ge t.number a.started with hlt | hge
    · obtain ⟨u, hu, hstamp, -⟩ := hr.older t (by simp [ht]) hlt
      exact .inr ⟨u, hu, hstamp⟩
    · exact .inl hge

/-- What every message keeps holds of the state all along. -/
theorem Reaches.kept {Good : σ → Prop} (h : M.Reaches offered a b)
    (hkeep : ∀ env m s, Good s → Good (M.update env m s).1) (hgood : Good a.state) :
    Good b.state := by
  refine h.invariant (P := fun r => Good r.state) hgood fun r e r' _ _ hp hs _ => ?_
  rcases hs.state_eq with he | ⟨env, m, he⟩
  · exact he ▸ hp
  · exact he ▸ hkeep env m r.state hp

/-- What the machine starts in its good states is all that is ever in flight. -/
theorem Reaches.works {Good : σ → Prop} {Work : Flow μ → Prop} (h : M.Reaches offered a b)
    (hkeep : ∀ env m s, Good s → Good (M.update env m s).1)
    (hstart : ∀ env m s, Good s → ∀ f ∈ flows (M.update env m s).2, Work f)
    (hgood : Good a.state) (hwork : ∀ t ∈ a.tasks, Work t.work) :
    Good b.state ∧ ∀ t ∈ b.tasks, Work t.work := by
  refine ⟨h.kept hkeep hgood, ?_⟩
  refine h.invariant (P := fun r => ∀ t ∈ r.tasks, Work t.work) hwork
    fun r e r' hr _ hp hs _ t' ht' => ?_
  obtain ⟨more, -, htasks⟩ := hs.tasks
  rcases htasks t' ht' with ⟨t, ht, hb⟩ | hn
  · exact hb.work_eq ▸ hp t ht
  · obtain ⟨env, m, -, -, hw⟩ := hn.source
    exact hstart env m r.state (hr.kept hkeep hgood) _ hw

/-- The answers that a task has heard stand in the log, in their order. -/
def Heard (r : Runtime σ μ) (t : Task μ) : Prop :=
  ∃ xs, Flow.Hears t.work xs t.rest ∧ (xs.map (Entry.answered t.toStamp)).Sublist r.log

theorem Step.heard (h : M.Step r e r') (hh : ∀ t ∈ r.tasks, Heard r t) :
    ∀ t ∈ r'.tasks, Heard r' t := by
  obtain ⟨more, hlog, htasks⟩ := h.tasks
  have hgrow : r.log.Sublist r'.log := hlog ▸ List.sublist_append_left r.log more
  intro t' ht'
  rcases htasks t' ht' with ⟨t, ht, hb⟩ | hs
  · obtain ⟨xs, hx, hsub⟩ := hh t ht
    cases hb with
    | same => exact ⟨xs, hx, hsub.trans hgrow⟩
    | asked _ _ _ => exact ⟨xs, hx, hsub.trans hgrow⟩
    | answered hc _ hm =>
      rw [hc] at hx
      refine ⟨xs ++ [⟨_, _⟩], hx.snoc _, ?_⟩
      rw [List.map_append, hlog, hm]
      exact hsub.append (List.Sublist.refl _)
  · exact ⟨[], by rw [hs.rest_eq]; exact .refl _, List.nil_sublist _⟩

theorem Reaches.heard (h : M.Reaches offered a b) (ha : ∀ t ∈ a.tasks, Heard a t) :
    ∀ t ∈ b.tasks, Heard b t :=
  h.invariant (P := fun r => ∀ t ∈ r.tasks, Heard r t) ha fun _ _ _ _ _ hh hs _ => hs.heard hh

/-! ### Jobs -/

/-- A flow that ends in reports of one job. -/
def Reports (M : Machine ε σ μ) (j : Job) (f : Flow μ) : Prop := f.Ends fun m => M.job? m = some j

theorem jobOf_eq {j : Job} {f : Flow μ} (h : M.Reports j f) : M.jobOf f = some j :=
  h.outcome _

/-- Every flow that the machine starts reports on one job. -/
def Faithful (M : Machine ε σ μ) : Prop :=
  ∀ env m s, ∀ f ∈ flows (M.update env m s).2, ∃ j, M.Reports j f

/-- Every task in flight will report on its job, whatever the answers are. -/
def AllReport (M : Machine ε σ μ) (r : Runtime σ μ) : Prop :=
  ∀ t ∈ r.tasks, ∃ j, M.jobOf t.work = some j ∧ M.Reports j t.rest

theorem Step.allReport (h : M.Step r e r') (hM : M.Faithful) (hr : M.AllReport r) :
    M.AllReport r' := by
  obtain ⟨more, -, htasks⟩ := h.tasks
  intro t' ht'
  rcases htasks t' ht' with ⟨t, ht, hb⟩ | hs
  · obtain ⟨j, hj, hrest⟩ := hr t ht
    cases hb with
    | same => exact ⟨j, hj, hrest⟩
    | asked _ _ _ => exact ⟨j, hj, hrest⟩
    | @answered c next reply hc _ _ =>
      unfold Reports at hrest
      rw [hc] at hrest
      exact ⟨j, hj, hrest reply⟩
  · obtain ⟨env, m, -, -, hw⟩ := hs.source
    obtain ⟨j, hj⟩ := hM env m r.state t'.work hw
    exact ⟨j, jobOf_eq hj, by rw [hs.rest_eq]; exact hj⟩

/-- The state and the jobs in flight belong together, whatever is offered and whatever is
reported. -/
structure Keeps (M : Machine ε σ μ) (offered : σ → μ → Prop) (Inv : σ → List (Option Job) → Prop) :
    Prop where
  message : ∀ env m s js, Inv s js → offered s m →
    Inv (M.update env m s).1 (js ++ (flows (M.update env m s).2).map M.jobOf)
  report : ∀ env m j s as bs, M.job? m = some j → Inv s (as ++ some j :: bs) →
    Inv (M.update env m s).1 (as ++ bs ++ (flows (M.update env m s).2).map M.jobOf)

/-- The jobs that each message starts, and the flow of each of them. -/
structure Plans (M : Machine ε σ μ) (starts : σ → μ → List Job) (flowOf : σ → Job → Flow μ) :
    Prop where
  flows_eq : ∀ env m s, flows (M.update env m s).2 = (starts s m).map (flowOf s)
  reports : ∀ s m, ∀ j ∈ starts s m, M.Reports j (flowOf s j)

section

variable {starts : σ → μ → List Job} {flowOf : σ → Job → Flow μ} {m : μ} {s : σ}

/-- A flow that was started is the flow of one of the jobs. -/
theorem Plans.mem (h : M.Plans starts flowOf) (env : ε) {f : Flow μ}
    (hf : f ∈ flows (M.update env m s).2) :
    ∃ j ∈ starts s m, f = flowOf s j ∧ M.Reports j f := by
  rw [h.flows_eq] at hf
  obtain ⟨j, hj, rfl⟩ := List.mem_map.1 hf
  exact ⟨j, hj, rfl, h.reports s m j hj⟩

theorem Plans.faithful (h : M.Plans starts flowOf) : M.Faithful := by
  intro env m s f hf
  obtain ⟨j, -, -, hj⟩ := h.mem env hf
  exact ⟨j, hj⟩

theorem Plans.jobs_eq (h : M.Plans starts flowOf) (env : ε) :
    (flows (M.update env m s).2).map M.jobOf = (starts s m).map some := by
  rw [h.flows_eq, List.map_map]
  exact List.map_congr_left fun j hj => jobOf_eq (h.reports s m j hj)

/-- To keep the accounts it is enough to book the jobs that are started. -/
theorem Plans.keeps (h : M.Plans starts flowOf) {Inv : σ → List (Option Job) → Prop}
    (hmessage : ∀ env m s js, Inv s js → offered s m →
      Inv (M.update env m s).1 (js ++ (starts s m).map some))
    (hreport : ∀ env m j s as bs, M.job? m = some j → Inv s (as ++ some j :: bs) →
      Inv (M.update env m s).1 (as ++ bs ++ (starts s m).map some)) : M.Keeps offered Inv := by
  constructor
  · intro env m s js hi hoff
    rw [h.jobs_eq]
    exact hmessage env m s js hi hoff
  · intro env m j s as bs hm hi
    rw [h.jobs_eq]
    exact hreport env m j s as bs hm hi

end

theorem jobs_tasksFor (s : σ) (visit number : Nat) (origin : Option μ) (fs : List (Flow μ)) :
    (M.tasksFor s visit origin number fs).map (fun t => M.jobOf t.work) = fs.map M.jobOf := by
  induction fs generalizing number with
  | nil => rfl
  | cons f fs ih => simp [tasksFor, ih]

theorem jobs_handle (env : ε) (m : μ) (r : Runtime σ μ) :
    M.jobs (M.handle env m r) = M.jobs r ++ (flows (M.update env m r.state).2).map M.jobOf := by
  simp only [jobs, handle_tasks, List.map_append, jobs_tasksFor]

theorem Step.keeps {Inv : σ → List (Option Job) → Prop} (h : M.Step r e r')
    (hk : M.Keeps offered Inv) (hoff : ∀ env m, e = .message env m → offered r.state m)
    (hr : M.AllReport r) (hi : Inv r.state (M.jobs r)) : Inv r'.state (M.jobs r') := by
  cases h with
  | idle => exact hi
  | @message env m =>
    rw [jobs_handle]
    exact hk.message env m r.state _ hi (hoff env m rfl)
  | ask ht hc hw =>
    simp only [jobs, ht, List.map_append, List.map_cons] at hi
    simpa only [jobs, Runtime.note, List.map_append, List.map_cons] using hi
  | answer ht hc hw =>
    simp only [jobs, ht, List.map_append, List.map_cons] at hi
    simpa only [jobs, Runtime.note, List.map_append, List.map_cons] using hi
  | @deliver env as bs t m ht hd =>
    -- What the task hands over reports on its job, which is taken out of the account.
    obtain ⟨j, hj, hrest⟩ := hr t (by simp [ht])
    unfold Reports at hrest
    rw [hd] at hrest
    simp only [jobs, ht, List.map_append, List.map_cons, hj] at hi
    have hnext := hk.report env m j r.state _ _ hrest hi
    rw [jobs_handle, handle_state]
    simpa only [jobs, Runtime.note, List.map_append] using hnext

theorem Reaches.allReport (h : M.Reaches offered a b) (hM : M.Faithful) (ha : M.AllReport a) :
    M.AllReport b :=
  h.invariant (P := M.AllReport) ha fun _ _ _ _ _ hp hs _ => hs.allReport hM hp

/-- The accounts are right all along a run. -/
theorem Reaches.accounts {Inv : σ → List (Option Job) → Prop} (h : M.Reaches offered a b)
    (hM : M.Faithful) (hk : M.Keeps offered Inv) (ha : M.AllReport a)
    (hi : Inv a.state (M.jobs a)) : M.AllReport b ∧ Inv b.state (M.jobs b) :=
  h.invariant (P := fun r => M.AllReport r ∧ Inv r.state (M.jobs r)) ⟨ha, hi⟩
    fun _ _ _ _ _ hp hs hoff => ⟨hs.allReport hM hp.1, hs.keeps hk hoff hp.1 hp.2⟩

theorem allReport_begin {s : σ} {effects : List (Effect μ)}
    (h : ∀ f ∈ flows effects, ∃ j, M.Reports j f) : M.AllReport (M.begin s effects) := by
  intro t ht
  obtain ⟨hw, hr, -⟩ := mem_tasksFor (by simpa [begin, launch] using ht)
  obtain ⟨j, hj⟩ := h t.work hw
  exact ⟨j, jobOf_eq hj, by rw [hr]; exact hj⟩

theorem jobs_begin (s : σ) (effects : List (Effect μ)) :
    M.jobs (M.begin s effects) = (flows effects).map M.jobOf := by
  simp only [jobs, begin, launch, List.nil_append, jobs_tasksFor]

end Machine

end TokenConsole
