import TokenConsole.Proofs.Text.Split
import TokenConsole.Proofs.Url.Percent
import TokenConsole.Url.Basic

/-!
# Paths that are gone further

A path is followed from segment to segment, so what a text adds to a path depends only on the place
where the path had led. The last segment of the text ends the path, unless it consists of dots.
-/
namespace TokenConsole.Url

open Text (splitWhere)

namespace Trail

variable {t : Trail}

/-- Through a segment, or back out of it. -/
def through (t : Trail) (text : List Char) : Trail :=
  let name := percentEncode inPathSet (unbroken text)
  match dots? name with
  | some 1 => t
  | some 2 => t.up
  | _ => t.down false name

/-- A segment that leads nowhere, or one level up. -/
def isDots (text : List Char) : Bool :=
  let name := percentEncode inPathSet (unbroken text)
  dots? name == some 1 || dots? name == some 2

theorem follow_cons (text : List Char) {rest : List (List Char)} (h : rest ≠ []) :
    follow false t (text :: rest) = follow false (t.through text) rest := by
  have hmore : rest.isEmpty = false := List.isEmpty_eq_false_iff.2 h
  rw [follow, split?]
  simp only [Bool.false_and, Bool.false_eq_true, if_false, hmore]
  rfl

/-- All segments but the last lead to a place from which the last one is followed. -/
theorem follow_append (texts : List (List Char)) {rest : List (List Char)} (h : rest ≠ []) :
    follow false t (texts ++ rest) = follow false (texts.foldl through t) rest := by
  induction texts generalizing t with
  | nil => rfl
  | cons text texts ih =>
    rw [List.cons_append, follow_cons text (List.append_ne_nil_of_right_ne_nil texts h), ih]
    rfl

theorem names_follow_dots {text : List Char} (h : isDots text = true) :
    ∃ names, (follow false t [text]).names = [] :: names := by
  refine ⟨(t.through text).names, ?_⟩
  rw [isDots] at h
  simp only [follow, split?, Bool.false_and, Bool.false_eq_true, if_false, List.isEmpty_nil,
    Bool.true_and, h, if_true]
  rfl

theorem names_follow_name {text : List Char} (h : isDots text = false) :
    (follow false t [text]).names = percentEncode inPathSet (unbroken text) :: t.names := by
  rw [isDots] at h
  simp only [follow, split?, Bool.false_and, Bool.false_eq_true, if_false, List.isEmpty_nil,
    Bool.true_and, h]
  obtain ⟨hone, htwo⟩ := Bool.or_eq_false_iff.1 h
  split
  · next heq => simp [heq] at hone
  · next heq => simp [heq] at htwo
  · simp [down]

/-- The path to the place with a text behind it, in which there may be slashes. -/
def path (t : Trail) (s : List Char) : Path :=
  .segments ((t.follow false (splitWhere isAnySlash s)).names.reverse.map String.ofList)

end Trail

/-! ### The text of a path -/

theorem Path.toList_text (names : List (List Char)) :
    (Path.segments (names.map String.ofList)).text.toList = names.flatMap ('/' :: ·) := by
  simp [Path.text, String.toList_join, List.flatMap_map]

namespace Trail

variable {t : Trail} {s : List Char}

/-- The text of the names that lead to the place. -/
def front (t : Trail) : List Char := t.names.reverse.flatMap ('/' :: ·)

theorem front_of_names {name : List Char} {names : List (List Char)} (h : t.names = name :: names) :
    t.front = names.reverse.flatMap ('/' :: ·) ++ '/' :: name := by
  simp [front, h]

theorem toList_text_path (t : Trail) (s : List Char) :
    (t.path s).text.toList = (t.follow false (splitWhere isAnySlash s)).front :=
  Path.toList_text _

/-- A text without slashes that does not consist of dots is the last segment, encoded. -/
theorem toList_text_path_of_name (hslash : ∀ c ∈ s, isAnySlash c = false)
    (hdots : isDots s = false) :
    (t.path s).text.toList = t.front ++ '/' :: percentEncode inPathSet (unbroken s) := by
  rw [toList_text_path, Text.splitWhere_of_none hslash, front_of_names (names_follow_name hdots)]
  rfl

theorem toList_text_path_nil (t : Trail) : (t.path []).text.toList = t.front ++ ['/'] :=
  toList_text_path_of_name nofun rfl

/-- The last segment of a path comes from the end of the text, or it is empty. -/
theorem exists_last_segment (t : Trail) (s : List Char) : ∃ last before name,
    (t.path s).text.toList = before ++ '/' :: name ∧ last <:+ s ∧
      (∀ c ∈ last, isAnySlash c = false) ∧
      (name = [] ∨ isDots last = false ∧ name = percentEncode inPathSet (unbroken last)) := by
  obtain ⟨parts, last, hsplit, hsuffix, hlast, -⟩ := Text.splitWhere_eq_concat isAnySlash s
  rw [toList_text_path, hsplit, follow_append parts (List.cons_ne_nil last [])]
  cases hdots : isDots last with
  | true =>
    obtain ⟨names, hnames⟩ := names_follow_dots (t := parts.foldl through t) hdots
    exact ⟨last, _, [], front_of_names hnames, hsuffix, hlast, .inl rfl⟩
  | false =>
    exact ⟨last, _, _, front_of_names (names_follow_name hdots), hsuffix, hlast,
      .inr ⟨hdots, rfl⟩⟩

end Trail

/-- The end of a text behind its last slash is known. -/
theorem segment_unique {before before' name name' : List Char} (hname : '/' ∉ name)
    (hname' : '/' ∉ name') (h : before ++ '/' :: name = before' ++ '/' :: name') :
    name = name' := by
  have hnone : ∀ {s : List Char}, '/' ∉ s → ∀ c ∈ s, (c == '/') = false :=
    fun hs c hc => beq_eq_false_iff_ne.2 fun heq => hs (heq ▸ hc)
  have hparts := congrArg (splitWhere (· == '/')) h
  rw [Text.splitWhere_append (by rfl), Text.splitWhere_append (by rfl),
    Text.splitWhere_of_none (hnone hname), Text.splitWhere_of_none (hnone hname')] at hparts
  exact (List.cons.inj (List.append_inj' hparts rfl).2).1

end TokenConsole.Url
