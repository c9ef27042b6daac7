import Mathlib.Data.List.Perm.Basic
import TokenConsole.Proofs.Grid.Pages

/-!
# Deletions that are answered in any order

Answers to deletions may arrive in any order. Each takes its own id off the list of deletions under
way, and its own rows if it brings success. The page is put right after every success, but the pages
only ever get fewer, so the last time decides.
-/
namespace TokenConsole.Grid

open TokenConsole.Calendar (Zone)
open TokenConsole.Gateway (Error Mapping)

/-- The messages of some answers to deletions, each with the time of its arrival. -/
def answered (as : List (Nat × String × Except Error Unit)) : List (Nat × Message) :=
  as.map fun a => (a.1, .deleted a.2.1 a.2.2)

/-- The ids that are reported as deleted. -/
def gone (as : List (String × Except Error Unit)) : List String :=
  as.filterMap fun a => a.2.toOption.map fun _ => a.1

/-- The grid without the deletions that were answered and without the rows that are gone. -/
def without (g : Grid) (as : List (String × Except Error Unit)) : Grid :=
  { g with
    deleting := g.deleting.diff (as.map Prod.fst)
    rows := g.rows.filter fun row => row.id ∉ gone as }

/-- What the toast of an answer says. -/
def announcement : String × Except Error Unit → Tone × String
  | (_, .ok _) => (.success, tokenDeleted)
  | (id, .error e) => (.error, s!"Failed to delete token {id}: {e.message}")

/-! ### The grid -/

section

variable (g : Grid) (as bs : List (String × Except Error Unit))

theorem without_nil : g.without [] = g := by
  simp [without, gone]

theorem without_append : (g.without as).without bs = g.without (as ++ bs) := by
  have hgone : gone (as ++ bs) = gone as ++ gone bs := List.filterMap_append
  have hrows : (g.rows.filter fun row => row.id ∉ gone as).filter (fun row => row.id ∉ gone bs) =
      g.rows.filter fun row => row.id ∉ gone (as ++ bs) := by
    rw [List.filter_filter, hgone]
    apply List.filter_congr
    intro row _
    rw [← Bool.decide_and, decide_eq_decide, List.mem_append, not_or, and_comm]
  simp only [without, hrows, List.map_append, List.diff_append]

variable {as bs} in
theorem without_perm (h : as.Perm bs) : g.without as = g.without bs := by
  have hdeleting : g.deleting.diff (as.map Prod.fst) = g.deleting.diff (bs.map Prod.fst) :=
    (h.map Prod.fst).diff_left g.deleting
  have hgone : ∀ id, id ∈ gone as ↔ id ∈ gone bs := fun _ => (h.filterMap _).mem_iff
  simp only [without, hdeleting, hgone]

/-- There are no more pages if there are not more rows to show. -/
theorem pages_le_pages [Zone] {g g' : Grid} (hsize : g'.pageSize = g.pageSize)
    (hrows : g'.filtered.length ≤ g.filtered.length) : g'.pages ≤ g.pages := by
  unfold pages
  rw [hsize]
  have hround : (g'.filtered.length + g.pageSize.rows - 1) / g.pageSize.rows ≤
      (g.filtered.length + g.pageSize.rows - 1) / g.pageSize.rows := by
    apply Nat.div_le_div_right
    omega
  omega

theorem pages_without_le [Zone] : (g.without as).pages ≤ g.pages := by
  have hrows : (g.without as).filtered.length ≤ g.filtered.length := by
    apply List.Sublist.length_le
    rw [filtered_eq, filtered_eq]
    exact List.filter_sublist.filter _
  exact pages_le_pages rfl hrows

/-- Whether the page is put right before is all the same. -/
theorem clampPage_without [Zone] :
    (g.clampPage.without as).clampPage = (g.without as).clampPage := by
  have hle := g.pages_without_le as
  have hpages : (g.clampPage.without as).pages = (g.without as).pages := rfl
  have hpage : min (min g.page (g.pages - 1)) ((g.without as).pages - 1) =
      min g.page ((g.without as).pages - 1) := by
    omega
  rw [clampPage, hpages]
  exact congrArg (fun page => { g.without as with page }) hpage

variable {g} in
theorem settleDeletion_eq [Zone] (h : g.Paged) (id : String) (result : Except Error Unit) :
    g.settleDeletion id result = (g.without [(id, result)]).clampPage := by
  cases result with
  | ok u =>
    have hrows : g.rows.filter (fun row => row.id != id) =
        g.rows.filter (fun row => row.id ∉ gone [(id, .ok u)]) := by
      apply List.filter_congr
      intro row _
      rw [Bool.eq_iff_iff]
      simp [gone, Except.toOption]
    simp only [settleDeletion, hrows, without, List.map_cons, List.map_nil, List.diff_cons,
      List.diff_nil]
  | error e =>
    have hsame : g.without [(id, .error e)] = { g with deleting := g.deleting.erase id } := by
      simp [without, gone, Except.toOption]
    have hpaged : Paged { g with deleting := g.deleting.erase id } := h
    rw [hsame, clampPage_eq_self hpaged]
    rfl

end

/-- After all answers the grid is without what they settle, and the page is put right once. -/
theorem grid_answered [Zone] {g : Grid} (h : g.Paged) (as : List (Nat × String × Except Error Unit))
    (toasts : Toasts) : (follow (answered as) (g, toasts)).1 =
      (g.without (as.map Prod.snd)).clampPage := by
  induction as using List.reverseRecOn with
  | nil =>
    show g = (g.without []).clampPage
    rw [without_nil, clampPage_eq_self h]
  | append_singleton as a ih =>
    have hstep : (follow (answered (as ++ [a])) (g, toasts)).1 =
        (follow (answered as) (g, toasts)).1.settleDeletion a.2.1 a.2.2 := by
      rw [answered, List.map_append, List.map_singleton, follow_snoc]
      obtain ⟨now, id, result⟩ := a
      cases result <;> rfl
    rw [hstep, ih, settleDeletion_eq (paged_clampPage _), clampPage_without, without_append,
      List.map_append]
    rfl

/-! ### The toasts -/

theorem said_answered [Zone] (g : Grid) (as : List (Nat × String × Except Error Unit))
    (toasts : Toasts) :
    (follow (answered as) (g, toasts)).2.items.map (fun t => (t.tone, t.text)) =
      toasts.items.map (fun t => (t.tone, t.text)) ++
        as.map fun a => announcement a.2 := by
  induction as using List.reverseRecOn with
  | nil => simp [answered, follow]
  | append_singleton as a ih =>
    rw [answered, List.map_append, List.map_singleton, follow_snoc, List.map_append,
      ← List.append_assoc, ← ih]
    obtain ⟨now, id, result⟩ := a
    cases result <;> simp [update, Toasts.add, Toasts.showFor, announcement, answered]

/-- The same answers to deletions, in two orders and at any times, leave the same grid, and toasts
that say the same things up to their order. -/
theorem deletions_in_any_order [Zone] {g : Grid} (hg : g.Paged)
    {as bs : List (Nat × String × Except Error Unit)}
    (h : (as.map Prod.snd).Perm (bs.map Prod.snd)) (toasts : Toasts) :
    (follow (answered as) (g, toasts)).1 = (follow (answered bs) (g, toasts)).1 ∧
    ((follow (answered as) (g, toasts)).2.items.map fun t => (t.tone, t.text)).Perm
      ((follow (answered bs) (g, toasts)).2.items.map fun t => (t.tone, t.text)) := by
  constructor
  · rw [grid_answered hg, grid_answered hg, g.without_perm h]
  · rw [said_answered, said_answered]
    apply List.Perm.append_left
    have hsaid := h.map announcement
    rwa [List.map_map, List.map_map] at hsaid

/-- Eleven rows, the last one alone on the second page, with two deletions under way. -/
def lastAlone : Grid :=
  { Grid.empty with
    rows := List.replicate 10 (bareRow "a") ++ [bareRow "b"], page := 1, deleting := ["a", "b"] }

theorem deletions_of_lastAlone :
    let refused : String × Except Error Unit := ("a", .error .sessionExpired)
    let done : String × Except Error Unit := ("b", .ok ())
    let first := follow (answered [(1, refused), (2, done)]) (lastAlone, .empty 4000)
    let second := follow (answered [(5, done), (9, refused)]) (lastAlone, .empty 4000)
    lastAlone.Paged ∧ [refused, done].Perm [done, refused] ∧
    first.1 = second.1 ∧
    (first.2.items.map fun t => (t.tone, t.text)).Perm
      (second.2.items.map fun t => (t.tone, t.text)) ∧
    first.1.page = 0 ∧ first.1.rows = List.replicate 10 (bareRow "a") ∧
    first.2.items ≠ second.2.items := by
  intro refused done first second
  have hpaged : lastAlone.Paged := by
    show lastAlone.page < lastAlone.pages
    decide
  have hperm : ([(1, refused), (2, done)].map Prod.snd).Perm
      ([(5, done), (9, refused)].map Prod.snd) := .swap done refused []
  obtain ⟨hgrid, htoasts⟩ := deletions_in_any_order hpaged hperm (.empty 4000)
  exact ⟨hpaged, hperm, hgrid, htoasts, by decide, by decide, by decide⟩

end TokenConsole.Grid
