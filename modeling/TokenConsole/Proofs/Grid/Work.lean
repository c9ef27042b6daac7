import TokenConsole.Grid
import TokenConsole.Proofs.Machine.Basic

/-!
# Loads and deletions of the grid

The grid counts its loads and keeps the ids of its deletions by hand. `Balanced` says that both
are what is in flight; every message from outside and every report keeps it.
-/
namespace TokenConsole.Grid

open TokenConsole.Calendar (Zone)
open TokenConsole.Gateway (Error Flow Mapping)

/-- The flow of a load. -/
def loading : Flow Message := (Flow.ask .listMappings).map .refreshed

/-- The job whose end a message reports. -/
def Message.job? : Message → Option Job
  | .refreshed _ => some .load
  | .deleted id _ => some (.deletion id)
  | _ => none

theorem Message.job?_cases {m : Message} {j : Job} (h : m.job? = some j) :
    j = .load ∨ ∃ id, j = .deletion id := by
  cases m with
  | refreshed result => exact .inl (Option.some.inj h).symm
  | deleted id result => exact .inr ⟨id, (Option.some.inj h).symm⟩
  | _ => cases h

/-- The job that a message starts. -/
def starts (g : Grid) : Message → Option Job
  | .refresh => if g.isLoading then none else some .load
  | .reload => some .load
  | .confirmDelete => (g.confirming.filter fun id => !g.isDeleting id).map .deletion
  | _ => none

/-- The flow of a job of the grid. -/
def flowOf : Job → Flow Message
  | .deletion id => deletion id
  | _ => loading

/-- The grid has jobs of two kinds. -/
theorem starts_cases {g : Grid} {m : Message} {j : Job} (h : g.starts m = some j) :
    j = .load ∨ ∃ id, j = .deletion id := by
  cases m with
  | refresh =>
    simp only [starts] at h
    split at h
    · cases h
    · cases h
      exact .inl rfl
  | reload =>
    cases h
    exact .inl rfl
  | confirmDelete =>
    obtain ⟨id, -, rfl⟩ := Option.map_eq_some_iff.1 h
    exact .inr ⟨id, rfl⟩
  | _ => cases h

/-- What the grid keeps by hand is what is in flight. -/
structure Balanced (g : Grid) (js : List (Option Job)) : Prop where
  loads : js.count (some .load) = g.pendingLoads
  deletions : ∀ id, js.count (some (.deletion id)) = g.deleting.count id
  once : g.deleting.Nodup
  confirming : ∀ id, g.confirming = some id → id ∉ g.deleting

theorem isLoading_iff (g : Grid) : g.isLoading = true ↔ 0 < g.pendingLoads := by
  simp [isLoading]

theorem isDeleting_iff (g : Grid) (id : String) : g.isDeleting id = true ↔ id ∈ g.deleting := by
  simp [isDeleting]

theorem confirm_of_none {g : Grid} (h : g.confirming = none) : g.confirm = (g, []) := by
  unfold confirm
  rw [h]

theorem confirm_of_deleting {g : Grid} {id : String} (h : g.confirming = some id)
    (hd : g.isDeleting id = true) : g.confirm = ({ g with confirming := none }, []) := by
  unfold confirm
  rw [h]
  exact if_pos hd

theorem confirm_of_idle {g : Grid} {id : String} (h : g.confirming = some id)
    (hd : g.isDeleting id = false) :
    g.confirm = ({ g with confirming := none, deleting := g.deleting ++ [id] },
      [.start (deletion id)]) := by
  unfold confirm
  rw [h]
  exact if_neg (by simpa [isDeleting] using hd)

/-- A message starts the flow of its job and nothing else. -/
theorem flows_update [Zone] (now : Nat) (m : Message) (g : Grid) (toasts : Toasts) :
    flows (g.update now m toasts).effects = ((g.starts m).map flowOf).toList := by
  cases m with
  | refresh =>
    by_cases hl : g.isLoading = true <;> simp [update, starts, hl, load, flowOf, loading]
  | reload => rfl
  | refreshed result => cases result <;> rfl
  | deleted id result => cases result <;> rfl
  | confirmDelete =>
    simp only [update, starts]
    cases hc : g.confirming with
    | none => simp [confirm_of_none hc]
    | some id =>
      by_cases hd : g.isDeleting id = true
      · simp [confirm_of_deleting hc hd, Option.filter_some, hd]
      · have hn : g.isDeleting id = false := by simpa using hd
        simp [confirm_of_idle hc hn, Option.filter_some, hn, flowOf]
  | _ => rfl

theorem Balanced.frame {g g' : Grid} {js : List (Option Job)} (h : g.Balanced js)
    (hl : g'.pendingLoads = g.pendingLoads) (hd : g'.deleting = g.deleting)
    (hc : g'.confirming = g.confirming) : g'.Balanced js :=
  ⟨hl ▸ h.loads, hd ▸ h.deletions, hd ▸ h.once, hd ▸ hc ▸ h.confirming⟩

/-- Jobs that are no work of the grid do not count. -/
theorem Balanced.ignore {g : Grid} {js js' : List (Option Job)} (h : g.Balanced js)
    (hl : js'.count (some .load) = js.count (some .load))
    (hd : ∀ id, js'.count (some (.deletion id)) = js.count (some (.deletion id))) :
    g.Balanced js' :=
  ⟨hl.trans h.loads, fun id => (hd id).trans (h.deletions id), h.once, h.confirming⟩

theorem Balanced.load {g : Grid} {js : List (Option Job)} (h : g.Balanced js) :
    g.load.1.Balanced (js ++ [some .load]) := by
  refine ⟨?_, fun id => ?_, h.once, h.confirming⟩
  · rw [List.count_append, h.loads]
    rfl
  · rw [List.count_append, h.deletions id]
    simp [Grid.load]

theorem Balanced.confirm {g : Grid} {js : List (Option Job)} (h : g.Balanced js) :
    g.confirm.1.Balanced (js ++ (g.starts .confirmDelete).toList.map some) := by
  cases hc : g.confirming with
  | none => simpa [confirm_of_none hc, starts, hc] using h
  | some id =>
    -- The branch of a deletion that runs already is never taken.
    have hfree : id ∉ g.deleting := h.confirming id hc
    have hn : g.isDeleting id = false := by simpa [isDeleting] using hfree
    rw [confirm_of_idle hc hn]
    simp only [starts, hc, Option.filter_some, hn]
    refine ⟨?_, fun k => ?_, ?_, ?_⟩
    · rw [List.count_append, h.loads]
      simp
    · rw [List.count_append, List.count_append, h.deletions k]
      simp [List.count_singleton]
    · rw [List.nodup_append]
      refine ⟨h.once, by simp, fun a ha b hb => ?_⟩
      rw [List.mem_singleton.1 hb]
      exact fun he => hfree (he ▸ ha)
    · intro k hk
      cases hk

/-- A message from outside adds the job that it starts. -/
theorem Balanced.message [Zone] {g : Grid} {js : List (Option Job)} (h : g.Balanced js) (now : Nat)
    {m : Message} (hm : m.job? = none) (toasts : Toasts) :
    (g.update now m toasts).grid.Balanced (js ++ (g.starts m).toList.map some) := by
  cases m with
  | refresh =>
    by_cases hl : g.isLoading = true
    · simpa [update, starts, hl] using h
    · simpa [update, starts, hl] using h.load
  | reload => exact h.load
  | refreshed result => cases hm
  | deleted id result => cases hm
  | requestDelete id =>
    by_cases hd : g.isDeleting id = true
    · simpa [update, starts, hd] using h
    · have hfree : id ∉ g.deleting := by simpa [isDeleting] using hd
      simp only [update, starts, hd, Bool.false_eq_true, if_false, Option.toList_none, List.map_nil,
        List.append_nil]
      refine ⟨h.loads, h.deletions, h.once, fun k hk => ?_⟩
      cases hk
      exact hfree
  | confirmDelete => exact h.confirm
  | cancelDelete =>
    simp only [update, starts, Option.toList_none, List.map_nil, List.append_nil]
    exact ⟨h.loads, h.deletions, h.once, fun k hk => by cases hk⟩
  | nextPage =>
    simp only [update, starts, Option.toList_none, List.map_nil, List.append_nil]
    split <;> exact h.frame rfl rfl rfl
  | _ =>
    simp only [update, starts, Option.toList_none, List.map_nil, List.append_nil]
    exact h.frame rfl rfl rfl

theorem Balanced.settleLoad {g g' : Grid} {as bs : List (Option Job)}
    (h : g.Balanced (as ++ some .load :: bs)) (hl : g'.pendingLoads = g.pendingLoads - 1)
    (hd : g'.deleting = g.deleting) (hc : g'.confirming = g.confirming) :
    g'.Balanced (as ++ bs) := by
  refine ⟨?_, fun id => ?_, hd ▸ h.once, hd ▸ hc ▸ h.confirming⟩
  · have hcount := h.loads
    rw [Machine.count_cut_self] at hcount
    omega
  · rw [hd, ← h.deletions id]
    exact (Machine.count_cut_of_ne (by simp)).symm

theorem Balanced.settleDeletion {g g' : Grid} {id : String} {as bs : List (Option Job)}
    (h : g.Balanced (as ++ some (.deletion id) :: bs)) (hl : g'.pendingLoads = g.pendingLoads)
    (hd : g'.deleting = g.deleting.erase id) (hc : g'.confirming = g.confirming) :
    g'.Balanced (as ++ bs) := by
  refine ⟨?_, fun k => ?_, ?_, ?_⟩
  · rw [hl, ← h.loads]
    exact (Machine.count_cut_of_ne (by simp)).symm
  · have hk := h.deletions k
    rw [List.count_append, List.count_cons] at hk
    rw [List.count_append, hd, List.count_erase, ← hk]
    by_cases he : id = k
    · subst he
      simp
    · simp [he]
  · rw [hd]
    exact h.once.erase id
  · intro k hk
    rw [hd]
    exact fun hm => h.confirming k (hc ▸ hk) (List.mem_of_mem_erase hm)

/-- A report takes its job away, and starts none. -/
theorem Balanced.report [Zone] {g : Grid} {j : Job} {as bs : List (Option Job)}
    (h : g.Balanced (as ++ some j :: bs)) (now : Nat) {m : Message} (hm : m.job? = some j)
    (toasts : Toasts) : (g.update now m toasts).grid.Balanced (as ++ bs) ∧ g.starts m = none := by
  cases m with
  | refreshed result =>
    cases hm
    refine ⟨?_, rfl⟩
    cases result <;> exact h.settleLoad rfl rfl rfl
  | deleted id result =>
    cases hm
    refine ⟨?_, rfl⟩
    cases result <;> exact h.settleDeletion rfl rfl rfl
  | _ => cases hm

end TokenConsole.Grid
