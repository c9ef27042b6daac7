import TokenConsole.Proofs.Grid.Pages
import TokenConsole.Proofs.Text.Blank
import TokenConsole.Proofs.Text.LowerCase

/-!
# What the filter finds

The filter compares small letters. It finds every row that holds the typed text as it is, unless a
capital sigma of that text becomes another small letter among what stands around it in the row. The
date of a row is looked at as it is shown, whatever the zone of the machine.
-/
namespace TokenConsole

open TokenConsole.Calendar (Zone)
open TokenConsole.Gateway (Mapping)
open TokenConsole.Text (KeepsSigmas Steady lowerChars trimChars)

namespace Grid

/-- A filter without the white space around it. -/
def typed (filter : String) : List Char := trimChars filter.toList

section

variable [Zone]

/-- A text of the row holds `part`, character for character. -/
def Holds (part : List Char) (row : Mapping) : Prop := ∃ s ∈ searched row, part <:+: s.toList

instance (part : List Char) (row : Mapping) : Decidable (Holds part row) :=
  inferInstanceAs (Decidable (∃ s ∈ searched row, part <:+: s.toList))

theorem Holds.mono {part whole : List Char} {row : Mapping} (h : Holds whole row)
    (hpart : part <:+: whole) : Holds part row := by
  obtain ⟨s, hs, hinfix⟩ := h
  exact ⟨s, hs, hpart.trans hinfix⟩

theorem mem_filtered_iff {g : Grid} {row : Mapping} :
    row ∈ g.filtered ↔ row ∈ g.rows ∧ g.Matches row := by
  rw [filtered_eq, List.mem_filter, decide_eq_true_iff]

variable {g : Grid} {row : Mapping}

/-- What stands in a row between texts that keep its sigmas is found. -/
theorem matches_of_keepsSigmas {s : String} (hs : s ∈ searched row) {before after : List Char}
    (he : s.toList = before ++ typed g.filter ++ after)
    (h : KeepsSigmas before (typed g.filter) after) : g.Matches row := by
  refine ⟨s, hs, ?_⟩
  rw [he]
  exact Text.lowerChars_infix_of_keepsSigmas h

theorem matches_of_steady (h : Steady (typed g.filter))
    (hrow : Holds (typed g.filter) row) : g.Matches row := by
  obtain ⟨s, hs, before, after, he⟩ := hrow
  exact matches_of_keepsSigmas hs he.symm (h.keepsSigmas before after)

/-- Of a row with nothing but an id, only the id is looked at. -/
theorem infix_of_matches_bareRow {id : String} (h : g.Matches (bareRow id)) :
    g.needle <:+: lowerChars id.toList := by
  obtain ⟨s, hs, hinfix⟩ := h
  rcases List.mem_cons.1 hs with rfl | hs
  · exact hinfix
  · have hempty : s = "" := by
      simpa [searched, bareRow, Mapping.created] using hs
    rw [hempty] at hinfix
    rw [List.infix_nil.1 hinfix]
    exact List.nil_infix

/-- If every row that holds the text is found, the small form of the text is a part of that of every
text around it. -/
theorem steady_of_found {filter : String} (h : ∀ g : Grid, g.filter = filter → ∀ row ∈ g.rows,
    Holds (typed filter) row → row ∈ g.filtered) :
    Steady (typed filter) := by
  apply Text.steady_iff.2
  intro before after
  let id := String.ofList (before ++ typed filter ++ after)
  let g : Grid := { Grid.empty with rows := [bareRow id], filter }
  have hholds : Holds (typed filter) (bareRow id) :=
    ⟨id, List.mem_cons_self, before, after, String.toList_ofList.symm⟩
  have hfound := h g rfl (bareRow id) List.mem_cons_self hholds
  have hinfix := infix_of_matches_bareRow (mem_filtered_iff.1 hfound).2
  rw [String.toList_ofList] at hinfix
  exact hinfix

/-- A blank filter selects every row. A row is found that holds the typed text, outer white space
apart, between texts that keep its sigmas. All rows that hold the text are found whatever stands
around it if and only if the text is steady, as every text without a capital sigma is; a steady
filter also finds the rows that hold a text that begins with it. This holds in every time zone. -/
theorem rows_found_iff (filter : String) :
    (typed filter = [] → ∀ g : Grid, g.filter = filter → g.filtered = g.rows) ∧
    (∀ g : Grid, g.filter = filter → ∀ row ∈ g.rows, ∀ s ∈ searched row, ∀ before after,
      s.toList = before ++ typed filter ++ after → KeepsSigmas before (typed filter) after →
        row ∈ g.filtered) ∧
    (Steady (typed filter) ↔ ∀ g : Grid, g.filter = filter → ∀ row ∈ g.rows,
      Holds (typed filter) row → row ∈ g.filtered) ∧
    (Steady (typed filter) → ∀ longer : String, filter.toList <+: longer.toList →
      ∀ g : Grid, g.filter = filter → ∀ row ∈ g.rows, Holds (typed longer) row →
        row ∈ g.filtered) ∧
    ('Σ' ∉ typed filter → Steady (typed filter)) := by
  have hsteady : Steady (typed filter) → ∀ g : Grid, g.filter = filter → ∀ row ∈ g.rows,
      Holds (typed filter) row → row ∈ g.filtered := by
    rintro h g rfl row hrow hholds
    exact mem_filtered_iff.2 ⟨hrow, matches_of_steady h hholds⟩
  refine ⟨?_, ?_, ⟨hsteady, steady_of_found⟩, ?_, Text.steady_of_not_mem⟩
  · rintro hblank g rfl
    have hneedle : g.needle = [] := congrArg lowerChars hblank
    rw [filtered_eq, List.filter_eq_self]
    exact fun row _ => decide_eq_true (matches_of_needle hneedle row)
  · rintro g rfl row hrow s hs before after he hkeeps
    exact mem_filtered_iff.2 ⟨hrow, matches_of_keepsSigmas hs he hkeeps⟩
  · intro h longer hlonger g hg row hrow hholds
    exact hsteady h g hg row hrow (hholds.mono (Text.trimChars_prefix_mono hlonger).isInfix)

end

/-- Three words, each with a sigma. -/
def words : Grid := { Grid.empty with rows := [bareRow "ΜΕΣΟΝ", bareRow "ΛΟΓΟΣ", bareRow "ΟΣΑ"] }

/-- A row that was made half an hour before the last day of a month, by UTC. -/
def lateRow : Mapping := { bareRow "a" with createdAt := some ⟨1761867000, 0⟩ }

def lateGrid (filter : String) : Grid := { Grid.empty with rows := [lateRow], filter }

/-- Where clocks are two hours ahead, the late row is found by the last day of the month alone. -/
theorem found_of_words :
    bareRow "ΜΕΣΟΝ" ∈ { words with filter := " ΣΟ " }.filtered ∧
    Steady "ΣΟ".toList ∧
    bareRow "ΛΟΓΟΣ" ∈ { words with filter := "ΟΣ" }.filtered ∧
    KeepsSigmas "ΛΟΓ".toList "ΟΣ".toList [] ∧ ¬Steady "ΟΣ".toList ∧
    { words with filter := "\t" }.filtered = words.rows ∧
    lateRow ∈ (lateGrid "30.10").filtered ∧
    lateRow ∉ @filtered (.ahead 7200) (lateGrid "30.10") ∧
    lateRow ∈ @filtered (.ahead 7200) (lateGrid "31.10") := by
  have hsteady : Steady (typed " ΣΟ ") := by decide +kernel
  have hkeeps : KeepsSigmas "ΛΟΓ".toList (typed "ΟΣ") [] := by decide +kernel
  obtain ⟨-, -, hfound, -⟩ := rows_found_iff " ΣΟ "
  obtain ⟨-, hbetween, -⟩ := rows_found_iff "ΟΣ"
  obtain ⟨hblank, -⟩ := rows_found_iff "\t"
  obtain ⟨-, -, hlate, -, hplain⟩ := @rows_found_iff (.ahead 7200) "31.10"
  have hshown : @Holds (.ahead 7200) (typed "31.10") lateRow := by decide +kernel
  have hutc : lateRow ∈ (lateGrid "30.10").filtered := by decide +kernel
  have hahead : lateRow ∉ @filtered (.ahead 7200) (lateGrid "30.10") := by decide +kernel
  refine ⟨?_, hsteady, ?_, hkeeps, by decide +kernel, hblank (by decide) _ rfl, hutc, hahead,
    hlate.1 (hplain (by decide)) _ rfl _ List.mem_cons_self hshown⟩
  · exact hfound.1 hsteady _ rfl _ List.mem_cons_self
      ⟨"ΜΕΣΟΝ", List.mem_cons_self, "ΜΕ".toList, "Ν".toList, rfl⟩
  · exact hbetween { words with filter := "ΟΣ" } rfl (bareRow "ΛΟΓΟΣ") (by decide) "ΛΟΓΟΣ"
      List.mem_cons_self _ _ rfl hkeeps

/-- A word is found as it is, and hidden once its last letter is taken off the filter. -/
theorem shorter_filter_hides :
    bareRow "ΟΣΑ" ∈ words.rows ∧
    Holds (typed "ΟΣΑ") (bareRow "ΟΣΑ") ∧
    bareRow "ΟΣΑ" ∈ { words with filter := "ΟΣΑ" }.filtered ∧
    "ΟΣ".toList <+: "ΟΣΑ".toList ∧
    Holds (typed "ΟΣ") (bareRow "ΟΣΑ") ∧
    bareRow "ΟΣΑ" ∉ { words with filter := "ΟΣ" }.filtered := by
  decide +kernel

end Grid

end TokenConsole
