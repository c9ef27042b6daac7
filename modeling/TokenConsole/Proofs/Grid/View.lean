import TokenConsole.Proofs.Screen.Parts
import TokenConsole.Proofs.Screen.Reach

/-!
# The grid as it is drawn

The parts of a drawn grid in their order: the toolbar, the banner, the rows of the page that is
shown, the pager, and over them the question whether to delete a row.
-/
namespace TokenConsole.Grid

open TokenConsole.Calendar (Zone)
open TokenConsole.Gateway (Mapping)
open TokenConsole.Screen (Button Label Node offer offer_eq)

variable [Zone] {μ β : Type} (g : Grid) (lift : Message → μ)

/-- What the button that deletes a row sends. -/
def deletePress (id : String) : Option μ :=
  if g.isDeleting id then none else some (lift (.requestDelete id))

def deleteLabel (id : String) : Label := .body (if g.isDeleting id then "Deleting" else "Delete")

/-- The cells of the row of a mapping. However little of the id is shown, the buttons know all of
it. -/
def rowCells (m : Mapping) : List (Node μ) := [
  .button .link (cell m.id) (some (lift (.copyToken m.id))),
  .text (cell m.cipherText),
  .text (cell m.wrappedKey),
  .text (.small m.ttl),
  .text (.small m.created),
  .button .destructive (g.deleteLabel m.id) (g.deletePress lift m.id)]

theorem rowView_eq (index : Nat) (m : Mapping) : g.rowView lift index m =
    .surface (if index % 2 = 0 then .tableRow else .tableRowAlt) (g.rowCells lift m) := by
  by_cases h : g.isDeleting m.id = true <;>
    simp [rowView, rowCells, deletePress, deleteLabel, h]

omit [Zone] in
/-- What is found in the rows does not hang on their place. -/
theorem flatMap_zipIdx {α : Type} (xs : List α) (f : α → List β) :
    xs.zipIdx.flatMap (fun x => f x.1) = xs.flatMap f := by
  rw [← List.flatMap_map, List.zipIdx_map_fst]

section

variable {pick : Node μ → Option β} (hp : Node.SkipsFrames pick)

include hp

theorem collect_tableView : (g.tableView lift).flatMap (Node.collect pick) =
    columns.flatMap (fun s => (pick (.text (.smallMedium s))).toList) ++
      if g.visible = [] then (pick (.text noTokens)).toList
      else g.visible.flatMap fun m => (pick (.surface .tableRow (g.rowCells lift m))).toList ++
        (g.rowCells lift m).flatMap (Node.collect pick) := by
  have hheader : ∀ cells, pick (.surface .tableHeader cells) = none :=
    fun cells => hp.surface _ cells (by decide) (by decide)
  have hrow : ∀ x : Mapping × Nat, (g.rowView lift x.2 x.1).collect pick =
      (pick (.surface .tableRow (g.rowCells lift x.1))).toList ++
        (g.rowCells lift x.1).flatMap (Node.collect pick) := by
    intro x
    rw [rowView_eq]
    split <;> simp [Node.collect, hp.tableRowAlt]
  by_cases h : g.visible = []
  · simp [tableView, h, Node.collect, hheader, List.flatMap_map]
  · simp [tableView, h, Node.collect, hheader, hp.scrolled, List.flatMap_map, hrow,
      flatMap_zipIdx g.visible fun m => (pick (.surface .tableRow (g.rowCells lift m))).toList ++
        (g.rowCells lift m).flatMap (Node.collect pick)]

omit [Zone] in
theorem collect_bannerView : g.bannerView.flatMap (Node.collect pick) =
    g.error.toList.flatMap fun e => (pick (.text (.small e))).toList := by
  unfold bannerView
  cases g.error <;> simp [Node.collect_notice hp]

theorem collect_view : (g.view lift).collect pick =
    (g.toolbarView lift).flatMap (Node.collect pick) ++
      g.error.toList.flatMap (fun e => (pick (.text (.small e))).toList) ++
      (columns.flatMap (fun s => (pick (.text (.smallMedium s))).toList) ++
        if g.visible = [] then (pick (.text noTokens)).toList
        else g.visible.flatMap fun m => (pick (.surface .tableRow (g.rowCells lift m))).toList ++
          (g.rowCells lift m).flatMap (Node.collect pick)) ++
      (g.pagerView lift).flatMap (Node.collect pick) ++
      g.confirming.toList.flatMap fun id => (confirmView id lift).collect pick := by
  rw [← g.collect_bannerView hp, ← g.collect_tableView lift hp]
  unfold view
  cases g.confirming with
  | none => simp [Node.collect, hp.group]
  | some id => simp [Node.collect, hp.group, hp.dialog]

end

omit [Zone] in
theorem ite_flatMap {α : Type} (xs : List α) (f : α → List β) :
    (if xs = [] then [] else xs.flatMap f) = xs.flatMap f := by
  split
  · next h => rw [h, List.flatMap_nil]
  · rfl

/-! ### Texts -/

/-- The texts of a grid that are not on its buttons. -/
theorem labels_view : (g.view lift).labels =
    g.error.toList.map Label.small ++
      (columns.map Label.smallMedium ++
        if g.visible = [] then [noTokens]
        else g.visible.flatMap fun m =>
          [cell m.cipherText, cell m.wrappedKey, .small m.ttl, .small m.created]) ++
      [(Label.small s!"{g.filtered.length} rows").secondary,
        .small s!"Page {g.page + 1} of {g.pages}"] ++
      g.confirming.toList.flatMap fun id =>
        [.heading4 "Delete token",
          .body s!"The token {id} will be deleted. This cannot be undone."] := by
  have htoolbar : (g.toolbarView lift).flatMap (Node.collect Node.label?) = [] := by
    simp [toolbarView, Node.collect, Node.label?]
  rw [Node.labels, collect_view g lift Node.skipsFrames_label, htoolbar, List.map_eq_flatMap]
  rfl

/-- The notice is drawn in place of the rows and nowhere else. -/
theorem noTokens_mem_labels_iff : noTokens ∈ (g.view lift).labels ↔ g.visible = [] := by
  rw [labels_view]
  by_cases h : g.visible = []
  · simp [h]
  · -- No other text of this size has a colour of its own.
    simp [h, noTokens, Label.secondary, Label.colored, Label.body, Label.small, Label.smallMedium,
      cell, Label.code, Label.heading4]

/-! ### Rows, inputs and buttons -/

theorem tableRows_view : (g.view lift).tableRows = g.visible.map (g.rowCells lift) := by
  have htoolbar : (g.toolbarView lift).flatMap (Node.collect Node.tableRow?) = [] := by
    simp [toolbarView, Node.collect, Node.tableRow?]
  rw [Node.tableRows, collect_view g lift Node.skipsFrames_tableRow, htoolbar]
  change [] ++ g.error.toList.flatMap (fun _ => []) ++ ([] ++ if g.visible = [] then [] else
      g.visible.flatMap fun m => [g.rowCells lift m]) ++ [] ++
    g.confirming.toList.flatMap (fun _ => []) = _
  simp [ite_flatMap, List.map_eq_flatMap]

/-- The filter is the only input. -/
theorem inputs_view : (g.view lift).inputs =
    [{ input := .filter, placeholder := "Filter", value := g.filter, secure := false, valid := true,
       onInput := fun s => lift (.filter s), onEnter := none }] := by
  have htoolbar : (g.toolbarView lift).flatMap (Node.collect Node.input?) =
      [{ input := .filter, placeholder := "Filter", value := g.filter, secure := false,
         valid := true, onInput := fun s => lift (.filter s), onEnter := none }] := by
    simp [toolbarView, Node.collect, Node.input?]
  rw [Node.inputs_eq, collect_view g lift Node.skipsFrames_input, htoolbar]
  change _ ++ g.error.toList.flatMap (fun _ => []) ++ ([] ++ if g.visible = [] then [] else
      g.visible.flatMap fun m => []) ++ [] ++
    g.confirming.toList.flatMap (fun _ => []) = _
  simp

/-- The buttons of a grid; `send` is what the buttons beside the rows send for a message. -/
def controls (send : Message → Option μ) : List (Button μ) :=
  ⟨.primary, .bodyMedium (if g.isLoading then "Loading..." else "Refresh"), send .refresh⟩ ::
    g.visible.flatMap (fun m =>
      [⟨.link, cell m.id, some (lift (.copyToken m.id))⟩,
        ⟨.destructive, g.deleteLabel m.id, g.deletePress lift m.id⟩]) ++
    [⟨.secondary, .body "<", send .previousPage⟩, ⟨.secondary, .body ">", send .nextPage⟩]

/-- The buttons of the question whether to delete a row. -/
def questionControls : List (Button μ) :=
  [⟨.transparent, .body "×", some (lift .cancelDelete)⟩,
    ⟨.secondary, .body "Cancel", some (lift .cancelDelete)⟩,
    ⟨.destructive, .body "Delete", some (lift .confirmDelete)⟩]

/-! ### What is ignored -/

/-- A grid ignores a message that changes nothing and asks for nothing. -/
def Ignores (now : Nat) (toasts : Toasts) (m : Message) : Prop :=
  g.update now m toasts = ⟨g, toasts, []⟩

section

variable (now : Nat) (toasts : Toasts)

theorem ignores_refresh_iff : g.Ignores now toasts .refresh ↔ g.isLoading = true := by
  unfold Ignores update
  by_cases h : g.isLoading = true <;> simp [h, load]

theorem ignores_previousPage_iff : g.Ignores now toasts .previousPage ↔ ¬0 < g.page := by
  unfold Ignores
  constructor
  · intro h
    have hpage : g.page - 1 = g.page := congrArg (·.grid.page) h
    omega
  · intro h
    have hpage : g.page - 1 = g.page := by omega
    simp only [update, hpage]

theorem ignores_nextPage_iff : g.Ignores now toasts .nextPage ↔ ¬g.page + 1 < g.pages := by
  unfold Ignores
  constructor
  · intro h hlt
    have hpage : (g.update now .nextPage toasts).grid.page = g.page := congrArg (·.grid.page) h
    simp [update, hlt] at hpage
  · intro h
    simp only [update, h, if_false]

/-- While no deletion waits to be confirmed, one can be asked for unless it is under way. -/
theorem ignores_requestDelete_iff {g : Grid} (hc : g.confirming = none) (id : String) :
    g.Ignores now toasts (.requestDelete id) ↔ g.isDeleting id = true := by
  unfold Ignores
  by_cases h : g.isDeleting id = true
  · simp [update, h]
  · have hne : some id ≠ g.confirming := by simp [hc]
    simp only [update, h, Bool.false_eq_true, if_false, iff_false]
    exact fun he => hne (congrArg (·.grid.confirming) he)

theorem buttons_view : (g.view lift).buttons =
    g.controls lift (offer (g.Ignores now toasts) lift) ++
      g.confirming.toList.flatMap fun _ => questionControls lift := by
  have htoolbar : (g.toolbarView lift).flatMap (Node.collect Node.button?) =
      [⟨.primary, .bodyMedium (if g.isLoading then "Loading..." else "Refresh"),
        offer (g.Ignores now toasts) lift .refresh⟩] := by
    rw [offer_eq (g.ignores_refresh_iff now toasts)]
    simp [toolbarView, Node.collect, Node.button?]
  have hpager : (g.pagerView lift).flatMap (Node.collect Node.button?) =
      [⟨.secondary, .body "<", offer (g.Ignores now toasts) lift .previousPage⟩,
        ⟨.secondary, .body ">", offer (g.Ignores now toasts) lift .nextPage⟩] := by
    rw [offer_eq (g.ignores_previousPage_iff now toasts),
      offer_eq (g.ignores_nextPage_iff now toasts), ite_not, ite_not]
    rfl
  rw [Node.buttons, collect_view g lift Node.skipsFrames_button, htoolbar, hpager]
  change _ ++ g.error.toList.flatMap (fun _ => []) ++ ([] ++ if g.visible = [] then [] else
      g.visible.flatMap fun m =>
        [⟨.link, cell m.id, some (lift (.copyToken m.id))⟩,
          ⟨.destructive, g.deleteLabel m.id, g.deletePress lift m.id⟩]) ++ _ ++
    g.confirming.toList.flatMap (fun _ => questionControls lift) = _
  rw [ite_flatMap, Screen.flatMap_nothing, List.append_nil, List.nil_append]
  rfl

end

/-! ### Messages -/

variable {g lift}

theorem types_view {m : μ} (h : (g.view lift).Types m) : ∃ s, m = lift (.filter s) := by
  obtain ⟨i, hi, hm⟩ := h
  rw [inputs_view] at hi
  obtain rfl := List.mem_singleton.1 hi
  rcases hm with ⟨s, hm⟩ | he
  · exact ⟨s, hm⟩
  · cases he

/-- Unless the question covers it, each row on the page offers its deletion. -/
theorem sends_requestDelete (hc : g.confirming = none) {m : Mapping} (hm : m ∈ g.visible)
    (hd : g.isDeleting m.id = false) : (g.view lift).Sends (lift (.requestDelete m.id)) := by
  obtain ⟨index, hindex⟩ : ∃ index, (m, index) ∈ g.visible.zipIdx := by
    simp only [List.mem_zipIdx_iff_getElem?]
    exact List.mem_iff_getElem?.1 hm
  have hrow : (g.rowView lift index m).Sends (lift (.requestDelete m.id)) := by
    rw [rowView_eq, Node.sends_surface]
    refine ⟨.button .destructive (g.deleteLabel m.id) (g.deletePress lift m.id), ?_, ?_⟩
    · simp [rowCells]
    · simp [deletePress, hd]
  have hne : g.visible ≠ [] := List.ne_nil_of_mem hm
  have hbody : Node.scrolled (g.visible.zipIdx.map fun x => g.rowView lift x.2 x.1) ∈
      g.tableView lift := by
    simp [tableView, hne]
  simp only [view, hc, Node.sends_group, List.mem_append]
  exact ⟨_, .inl (.inr hbody), (Node.sends_scrolled _).2 ⟨_, List.mem_map_of_mem hindex, hrow⟩⟩

end TokenConsole.Grid
