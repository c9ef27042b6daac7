import Mathlib.Data.List.Infix
import TokenConsole.Proofs.Grid.History
import TokenConsole.Proofs.Grid.Paging
import TokenConsole.Proofs.Grid.View

/-!
# The pages of the grid

The pages are the rows that match the filter, cut into pieces of the size of a page. Put together
they are all of these rows, so paging neither loses a row nor shows one twice.
-/
namespace TokenConsole

open TokenConsole.Calendar (Zone)
open TokenConsole.Gateway (Mapping)

namespace Grid

variable [Zone]

/-- The rows on the page of a number, counted from 0. -/
def rowsOn (g : Grid) (n : Nat) : List Mapping := { g with page := n }.visible

/-- The text that is looked for, letter case and outer white space apart. -/
def needle (g : Grid) : List Char := Text.lowerChars (Text.trimChars g.filter.toList)

/-- A row matches the filter if the text that is looked for stands in one of its columns. -/
def Matches (g : Grid) (m : Mapping) : Prop :=
  ∃ s ∈ searched m, g.needle <:+: Text.lowerChars s.toList

instance (g : Grid) (m : Mapping) : Decidable (g.Matches m) :=
  inferInstanceAs (Decidable (∃ s ∈ searched m, g.needle <:+: Text.lowerChars s.toList))

/-! ### The filter -/

omit [Zone] in
theorem contains_iff (part s : List Char) : contains part s = true ↔ part <:+: s := by
  induction s with
  | nil => simp [contains]
  | cons c rest ih =>
    rw [contains, Bool.or_eq_true, ih, List.isPrefixOf_iff_prefix, List.infix_cons_iff]

theorem matchesText_iff (g : Grid) (m : Mapping) :
    matchesText g.needle m = true ↔ g.Matches m := by
  simp only [matchesText, Matches, List.any_eq_true, contains_iff]

/-- An empty text stands in every row. -/
theorem matches_of_needle {g : Grid} (h : g.needle = []) (m : Mapping) : g.Matches m :=
  ⟨m.id, List.mem_cons_self, h ▸ List.nil_infix⟩

/-- The rows that match, in the order in which they stand in the grid. -/
theorem filtered_eq (g : Grid) : g.filtered = g.rows.filter fun m => g.Matches m := by
  change (if g.needle = [] then g.rows else g.rows.filter (matchesText g.needle)) = _
  split
  · next h => exact (List.filter_eq_self.2 fun m _ => decide_eq_true (matches_of_needle h m)).symm
  · refine List.filter_congr fun m _ => ?_
    rw [Bool.eq_iff_iff, matchesText_iff, decide_eq_true_iff]

/-! ### The pages -/

omit [Zone] in
/-- Pieces of one size, as many as there are, from the beginning of a list. -/
theorem take_eq_flatMap_pieces {α : Type} (xs : List α) (size count : Nat) :
    xs.take (count * size) =
      (List.range count).flatMap fun n => (xs.drop (n * size)).take size := by
  induction count with
  | zero => simp
  | succ count ih =>
    rw [Nat.succ_mul, List.take_add, ih, List.range_succ, List.flatMap_append,
      List.flatMap_singleton]

theorem rowsOn_eq (g : Grid) (n : Nat) :
    g.rowsOn n = (g.filtered.drop (n * g.pageSize.rows)).take g.pageSize.rows := rfl

theorem visible_eq_rowsOn (g : Grid) : g.visible = g.rowsOn g.page := rfl

/-- There is room for every row that matches. -/
theorem length_filtered_le (g : Grid) : g.filtered.length ≤ g.pages * g.pageSize.rows := by
  unfold pages
  cases g.pageSize <;> simp only [PageSize.rows] <;> omega

/-- Before the last page the rows do not run out. -/
theorem lt_length_filtered {g : Grid} {n : Nat} (h : n + 1 < g.pages) :
    (n + 1) * g.pageSize.rows < g.filtered.length := by
  unfold pages at h
  cases hs : g.pageSize <;> simp only [hs, PageSize.rows] at h ⊢ <;> omega

theorem length_rowsOn (g : Grid) (n : Nat) :
    (g.rowsOn n).length = min g.pageSize.rows (g.filtered.length - n * g.pageSize.rows) := by
  rw [rowsOn_eq, List.length_take, List.length_drop]

theorem length_rowsOn_of_lt {g : Grid} {n : Nat} (h : n + 1 < g.pages) :
    (g.rowsOn n).length = g.pageSize.rows := by
  have hlt := lt_length_filtered h
  rw [Nat.succ_mul] at hlt
  rw [length_rowsOn]
  omega

theorem flatMap_rowsOn (g : Grid) : (List.range g.pages).flatMap g.rowsOn = g.filtered := by
  have hpieces := take_eq_flatMap_pieces g.filtered g.pageSize.rows g.pages
  rw [List.take_of_length_le g.length_filtered_le] at hpieces
  exact hpieces.symm

/-- A page that exists is empty only if no row matches. -/
theorem rowsOn_eq_nil_iff {g : Grid} {n : Nat} (h : n < g.pages) :
    g.rowsOn n = [] ↔ g.filtered = [] := by
  rw [← List.length_eq_zero_iff, ← List.length_eq_zero_iff, length_rowsOn]
  unfold pages at h
  cases hs : g.pageSize <;> simp only [hs, PageSize.rows] at h ⊢ <;> omega

/-! ### Every history -/

theorem paged_follow (ms : List (Nat × Message)) (toasts : Toasts) :
    (follow ms (.empty, toasts)).1.Paged := by
  induction ms using List.reverseRecOn with
  | nil => exact pages_pos _
  | append_singleton ms m ih =>
    rw [follow_snoc]
    exact ih.update m.1 m.2 _

/-- The pages of a grid put every row that matches before the user. -/
structure Paginates (g : Grid) : Prop where
  /-- The page that is shown is one of them. -/
  shown : g.page < g.pages
  visible : g.visible = g.rowsOn g.page
  /-- It is empty only if no row matches, and only then the grid says so. -/
  empty : g.visible = [] ↔ g.filtered = []
  notice : ∀ {μ : Type} (lift : Message → μ), noTokens ∈ (g.view lift).labels ↔ g.filtered = []
  /-- The pages before the last one are full. -/
  full : ∀ n, n + 1 < g.pages → (g.rowsOn n).length = g.pageSize.rows
  /-- All pages together are the rows that match. -/
  complete : (List.range g.pages).flatMap g.rowsOn = g.filtered
  filtered : g.filtered = g.rows.filter fun m => g.Matches m

theorem Paged.paginates {g : Grid} (h : g.Paged) : g.Paginates := by
  have hempty : g.visible = [] ↔ g.filtered = [] := rowsOn_eq_nil_iff h
  exact ⟨h, g.visible_eq_rowsOn, hempty, fun lift => (g.noTokens_mem_labels_iff lift).trans hempty,
    fun n hn => length_rowsOn_of_lt hn, g.flatMap_rowsOn, g.filtered_eq⟩

/-- Whatever messages a grid has handled, its pages show every row that matches, each once and in
its place. -/
theorem pages_show_every_match (ms : List (Nat × Message)) (toasts : Toasts) :
    (follow ms (.empty, toasts)).1.Paginates :=
  (paged_follow ms toasts).paginates

end Grid

end TokenConsole
