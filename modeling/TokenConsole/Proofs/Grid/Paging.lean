import TokenConsole.Grid

/-!
# The page that is shown

The page that the grid shows always exists. On such a grid an answer changes nothing only if it was
not waited for and brings nothing new.
-/
namespace TokenConsole.Grid

open TokenConsole.Calendar (Zone)
open TokenConsole.Gateway (Error Mapping)

variable [Zone]

/-- The page that is shown is one of the pages. -/
def Paged (g : Grid) : Prop := g.page < g.pages

theorem pages_pos (g : Grid) : 0 < g.pages := by
  unfold pages
  omega

theorem paged_clampPage (g : Grid) : g.clampPage.Paged := by
  have hpos := g.pages_pos
  change min g.page (g.pages - 1) < g.pages
  omega

theorem clampPage_eq_self {g : Grid} (h : g.Paged) : g.clampPage = g := by
  have hlt : g.page < g.pages := h
  have hpage : min g.page (g.pages - 1) = g.page := by omega
  unfold clampPage
  rw [hpage]

theorem paged_fresh : Grid.empty.load.1.Paged := Grid.pages_pos _

theorem confirm_frame (g : Grid) : g.confirm.1.page = g.page ∧ g.confirm.1.pages = g.pages := by
  unfold confirm
  split
  · exact ⟨rfl, rfl⟩
  · dsimp only
    split
    · exact ⟨rfl, rfl⟩
    · exact ⟨rfl, rfl⟩

theorem Paged.update {g : Grid} (h : g.Paged) (now : Nat) (m : Message) (toasts : Toasts) :
    (g.update now m toasts).grid.Paged := by
  have hlt : g.page < g.pages := h
  cases m with
  | refresh =>
    simp only [Grid.update]
    split
    · exact h
    · exact h
  | refreshed result =>
    cases result with
    | ok rows => exact paged_clampPage _
    | error e => exact h
  | requestDelete id =>
    simp only [Grid.update]
    split
    · exact h
    · exact h
  | confirmDelete =>
    obtain ⟨hp, hn⟩ := g.confirm_frame
    change g.confirm.1.page < g.confirm.1.pages
    rw [hp, hn]
    exact h
  | deleted id result =>
    cases result with
    | ok _ => exact paged_clampPage _
    | error e => exact h
  | pageSize size => exact paged_clampPage _
  | nextPage =>
    simp only [Grid.update]
    split
    · assumption
    · exact h
  | previousPage =>
    change g.page - 1 < g.pages
    omega
  | filter text => exact Grid.pages_pos _
  | _ => exact h

/-! ### Answers that change nothing -/

/-- An answer that was not waited for and brings nothing new. -/
def Settled (g : Grid) : Message → Prop
  | .refreshed (.ok rows) => g.pendingLoads = 0 ∧ rows = g.rows ∧ g.error = none
  | .refreshed (.error e) => g.pendingLoads = 0 ∧ g.error = some e.message
  | .deleted id (.ok _) => id ∉ g.deleting ∧ ∀ row ∈ g.rows, row.id ≠ id
  | .deleted id (.error _) => id ∉ g.deleting
  | _ => False

theorem showLoaded_eq_self_iff {g : Grid} (h : g.Paged) (result : Except Error (List Mapping)) :
    g.showLoaded result = g ↔ g.Settled (.refreshed result) := by
  cases result with
  | ok rows =>
    constructor
    · intro he
      have hloads : g.pendingLoads - 1 = g.pendingLoads := congrArg Grid.pendingLoads he
      exact ⟨by omega, congrArg Grid.rows he, (congrArg Grid.error he).symm⟩
    · rintro ⟨hloads, rfl, herror⟩
      have hless : g.pendingLoads - 1 = g.pendingLoads := by omega
      have hsame : { g with
          pendingLoads := g.pendingLoads - 1, rows := g.rows, error := none } = g := by
        rw [hless, ← herror]
      change Grid.clampPage { g with
        pendingLoads := g.pendingLoads - 1, rows := g.rows, error := none } = g
      rw [hsame]
      exact clampPage_eq_self h
  | error e =>
    constructor
    · intro he
      have hloads : g.pendingLoads - 1 = g.pendingLoads := congrArg Grid.pendingLoads he
      exact ⟨by omega, (congrArg Grid.error he).symm⟩
    · rintro ⟨hloads, herror⟩
      have hless : g.pendingLoads - 1 = g.pendingLoads := by omega
      change { g with pendingLoads := g.pendingLoads - 1, error := some e.message } = g
      rw [hless, ← herror]

theorem settleDeletion_eq_self_iff {g : Grid} (h : g.Paged) (id : String)
    (result : Except Error Unit) :
    g.settleDeletion id result = g ↔ g.Settled (.deleted id result) := by
  cases result with
  | ok _ =>
    constructor
    · intro he
      have hids : g.deleting.erase id = g.deleting := congrArg Grid.deleting he
      have hrows : g.rows.filter (·.id != id) = g.rows := congrArg Grid.rows he
      refine ⟨List.erase_eq_self_iff.1 hids, fun row hrow => ?_⟩
      simpa using List.filter_eq_self.1 hrows row hrow
    · rintro ⟨hids, hrows⟩
      have hfilter : g.rows.filter (·.id != id) = g.rows :=
        List.filter_eq_self.2 fun row hrow => by simpa using hrows row hrow
      have hsame : { g with
          deleting := g.deleting.erase id, rows := g.rows.filter (·.id != id) } = g := by
        rw [hfilter, List.erase_eq_self_iff.2 hids]
      change Grid.clampPage { g with
        deleting := g.deleting.erase id, rows := g.rows.filter (·.id != id) } = g
      rw [hsame]
      exact clampPage_eq_self h
  | error e =>
    constructor
    · intro he
      exact List.erase_eq_self_iff.1 (congrArg Grid.deleting he)
    · intro hids
      change { g with deleting := g.deleting.erase id } = g
      rw [List.erase_eq_self_iff.2 hids]

end TokenConsole.Grid
