import Mathlib.Data.List.TakeWhile
import TokenConsole.Text.Blank
import TokenConsole.Text.Split

/-!
# Parts of joined texts

Where a text is cut does not depend on what stands behind the place of the cut.
-/
namespace TokenConsole.Text

variable {p : Char → Bool} {c : Char}

/-! ### Up to a stop -/

theorem takeWhile_append_stop (hc : p c = false) (s rest : List Char) :
    (s ++ c :: rest).takeWhile p = s.takeWhile p := by
  rw [List.takeWhile_append, List.takeWhile_cons_of_neg (Bool.not_eq_true _ ▸ hc), List.append_nil]
  split
  · next hall => exact (List.IsPrefix.eq_of_length (List.takeWhile_prefix p) hall).symm
  · rfl

theorem dropWhile_append_stop (hc : p c = false) (s rest : List Char) :
    (s ++ c :: rest).dropWhile p = s.dropWhile p ++ c :: rest := by
  rw [List.dropWhile_append, List.dropWhile_cons_of_neg (Bool.not_eq_true _ ▸ hc)]
  split
  · next hnone => rw [List.isEmpty_iff.1 hnone, List.nil_append]
  · rfl

theorem dropEndWhile_append_stop (hc : p c = false) (s rest : List Char) :
    dropEndWhile p (s ++ c :: rest) = s ++ c :: dropEndWhile p rest := by
  have hreverse : (s ++ c :: rest).reverse = rest.reverse ++ c :: s.reverse := by simp
  rw [dropEndWhile, hreverse, dropWhile_append_stop hc, dropEndWhile]
  simp

/-- Nothing is dropped from the end if and only if the last character stays. -/
theorem dropEndWhile_eq_self_iff {s : List Char} :
    dropEndWhile p s = s ↔ ∀ c ∈ s.getLast?, p c = false := by
  rw [← List.head?_reverse, dropEndWhile, List.reverse_eq_iff]
  exact ⟨fun h => h ▸ head_dropWhile s.reverse, dropWhile_of_head⟩

/-- A character is the last one that stays if and only if it is not accepted and all behind it
are. -/
theorem mem_getLast?_dropEndWhile_iff {s : List Char} : c ∈ (dropEndWhile p s).getLast? ↔
    p c = false ∧ ∃ before after, s = before ++ c :: after ∧ ∀ d ∈ after, p d = true := by
  constructor
  · intro hlast
    have hdropped : ∀ d ∈ (s.reverse.takeWhile p).reverse, p d = true := fun d hd =>
      List.all_eq_true.1 List.all_takeWhile d (List.mem_reverse.1 hd)
    have hparts : s = dropEndWhile p s ++ (s.reverse.takeWhile p).reverse := by
      rw [dropEndWhile, ← List.reverse_append, List.takeWhile_append_dropWhile,
        List.reverse_reverse]
    obtain ⟨before, hbefore⟩ := List.getLast?_eq_some_iff.1 hlast
    rw [dropEndWhile, List.getLast?_reverse] at hlast
    refine ⟨head_dropWhile s.reverse c hlast, before, (s.reverse.takeWhile p).reverse, ?_, hdropped⟩
    rw [hbefore] at hparts
    simpa using hparts
  · rintro ⟨hc, before, after, rfl, hafter⟩
    have hnone : dropEndWhile p after = [] := by
      rw [dropEndWhile, List.dropWhile_eq_nil_iff.2 fun d hd => hafter d (List.mem_reverse.1 hd),
        List.reverse_nil]
    rw [dropEndWhile_append_stop hc, hnone]
    simp

/-- A text is cut at the first character that is accepted. -/
theorem cutWhere?_eq_some_iff {s before after : List Char} :
    cutWhere? p s = some (before, after) ↔
      ∃ d, p d = true ∧ (∀ c ∈ before, p c = false) ∧ s = before ++ d :: after := by
  constructor
  · intro h
    unfold cutWhere? at h
    cases hdrop : s.dropWhile fun c => !p c with
    | nil =>
      rw [hdrop] at h
      cases h
    | cons d rest =>
      rw [hdrop] at h
      cases h
      have hd : (!p d) = false := head_dropWhile s d (by rw [hdrop]; rfl)
      have hbefore : ∀ c ∈ s.takeWhile (fun c => !p c), (!p c) = true :=
        List.all_eq_true.1 List.all_takeWhile
      refine ⟨d, by simpa using hd, fun c hc => by simpa using hbefore c hc, ?_⟩
      rw [← hdrop, List.takeWhile_append_dropWhile]
  · rintro ⟨d, hd, hbefore, rfl⟩
    have hstop : (!p d) = false := by simp [hd]
    have hall : ∀ c ∈ before, (!p c) = true := fun c hc => by simp [hbefore c hc]
    unfold cutWhere?
    rw [dropWhile_append_stop hstop, takeWhile_append_stop hstop, List.dropWhile_eq_nil_iff.2 hall,
      List.takeWhile_eq_self_iff.2 hall]
    rfl

theorem cutWhere?_append {s before after : List Char} (h : cutWhere? p s = some (before, after))
    (rest : List Char) : cutWhere? p (s ++ rest) = some (before, after ++ rest) := by
  obtain ⟨d, hd, hbefore, rfl⟩ := cutWhere?_eq_some_iff.1 h
  exact cutWhere?_eq_some_iff.2 ⟨d, hd, hbefore, by simp⟩

/-! ### Parts -/

theorem splitWhere_ne_nil (p : Char → Bool) (s : List Char) : splitWhere p s ≠ [] := by
  fun_cases splitWhere p s <;> simp_all

theorem splitWhere_of_none {s : List Char} (h : ∀ c ∈ s, p c = false) : splitWhere p s = [s] := by
  induction s with
  | nil => rfl
  | cons c s ih =>
    obtain ⟨hc, hs⟩ := List.forall_mem_cons.1 h
    rw [splitWhere, if_neg (by simp [hc]), ih hs]

/-- A separator parts a text into what is before it and what is behind it. -/
theorem splitWhere_append (hc : p c = true) (s rest : List Char) :
    splitWhere p (s ++ c :: rest) = splitWhere p s ++ splitWhere p rest := by
  induction s with
  | nil => exact if_pos hc
  | cons d s ih =>
    rw [List.cons_append, splitWhere, splitWhere, ih]
    split
    · rfl
    · cases hparts : splitWhere p s with
      | nil => exact absurd hparts (splitWhere_ne_nil p s)
      | cons part parts => rfl

/-- The last part is the end of the text behind the last separator. -/
theorem splitWhere_eq_concat (p : Char → Bool) (s : List Char) :
    ∃ parts last, splitWhere p s = parts ++ [last] ∧ last <:+ s ∧ (∀ c ∈ last, p c = false) ∧
      (parts = [] → last = s) := by
  induction s with
  | nil => exact ⟨[], [], rfl, List.suffix_refl _, nofun, fun _ => rfl⟩
  | cons c s ih =>
    obtain ⟨parts, last, hsplit, hsuffix, hlast, hall⟩ := ih
    have hsuffix' : last <:+ c :: s := hsuffix.trans (List.suffix_cons c s)
    rw [splitWhere, hsplit]
    split
    · exact ⟨[] :: parts, last, rfl, hsuffix', hlast, nofun⟩
    · next hc =>
      cases parts with
      | cons part parts => exact ⟨(c :: part) :: parts, last, rfl, hsuffix', hlast, nofun⟩
      | nil =>
        obtain rfl := hall rfl
        refine ⟨[], c :: last, rfl, List.suffix_refl _, ?_, fun _ => rfl⟩
        exact List.forall_mem_cons.2 ⟨by simpa using hc, hlast⟩

end TokenConsole.Text
