import TokenConsole.Proofs.Text.Split
import TokenConsole.Text.Blank

/-!
# Texts with white space around them

White space at the ends of a text makes no difference once it is trimmed.
-/
namespace TokenConsole.Text

variable {s before after : List Char}

theorem dropWhile_append_of_all (h : before.all isSpace = true) :
    (before ++ s).dropWhile isSpace = s.dropWhile isSpace :=
  List.dropWhile_append_of_pos (List.all_eq_true.1 h)

theorem dropEndWhile_append_of_all (h : after.all isSpace = true) :
    dropEndWhile isSpace (s ++ after) = dropEndWhile isSpace s := by
  have hreverse : after.reverse.all isSpace = true := by rw [List.all_reverse, h]
  rw [dropEndWhile, List.reverse_append, dropWhile_append_of_all hreverse, dropEndWhile]

/-- White space around a text is trimmed. -/
theorem trimChars_append (hbefore : before.all isSpace = true)
    (hafter : after.all isSpace = true) : trimChars (before ++ s ++ after) = trimChars s := by
  have hnil : after.dropWhile isSpace = [] := by
    simpa using dropWhile_append_of_all (s := []) hafter
  rw [List.append_assoc, trimChars, dropWhile_append_of_all hbefore, List.dropWhile_append]
  split
  · next h => rw [hnil, trimChars, List.isEmpty_iff.1 h]
  · rw [dropEndWhile_append_of_all hafter, trimChars]

theorem trimChars_sublist (s : List Char) : (trimChars s).Sublist s :=
  (dropEndWhile_prefix_self isSpace _).sublist.trans (s.dropWhile_suffix isSpace).sublist

/-- Nothing is trimmed of a text if and only if it has no white space at its ends. -/
theorem trimChars_eq_self_iff : trimChars s = s ↔
    (∀ c ∈ s.head?, isSpace c = false) ∧ ∀ c ∈ s.getLast?, isSpace c = false := by
  constructor
  · intro h
    have hlength : s.length ≤ (s.dropWhile isSpace).length := by
      have hle := (dropEndWhile_prefix_self isSpace (s.dropWhile isSpace)).length_le
      rwa [← trimChars, h] at hle
    have hfront : s.dropWhile isSpace = s :=
      (s.dropWhile_suffix isSpace).eq_of_length_le hlength
    rw [trimChars, hfront] at h
    exact ⟨hfront ▸ head_dropWhile s, dropEndWhile_eq_self_iff.1 h⟩
  · rintro ⟨hfront, hback⟩
    rw [trimChars, dropWhile_of_head hfront, dropEndWhile_eq_self_iff.2 hback]

/-- A text without white space is left as it is. -/
theorem trimChars_eq_self (h : ∀ c ∈ s, isSpace c = false) : trimChars s = s :=
  trimChars_eq_self_iff.2 ⟨fun c hc => h c (List.mem_of_mem_head? hc),
    fun c hc => h c (List.mem_of_mem_getLast? hc)⟩

/-- What is left of the beginning of a text is the beginning of what is left of the text. -/
theorem trimChars_prefix_mono {t : List Char} (h : s <+: t) : trimChars s <+: trimChars t := by
  obtain ⟨more, rfl⟩ := h
  rw [trimChars, trimChars, List.dropWhile_append]
  split
  · next hblank =>
    rw [List.isEmpty_iff.1 hblank]
    exact List.nil_prefix
  · have hmore : dropEndWhile isSpace (s.dropWhile isSpace ++ more) =
        if (more.reverse.dropWhile isSpace).isEmpty then dropEndWhile isSpace (s.dropWhile isSpace)
        else s.dropWhile isSpace ++ dropEndWhile isSpace more := by
      rw [dropEndWhile, List.reverse_append, List.dropWhile_append]
      split
      · rfl
      · rw [List.reverse_append, List.reverse_reverse, dropEndWhile]
    rw [hmore]
    split
    · exact List.prefix_rfl
    · exact (dropEndWhile_prefix_self isSpace _).trans (List.prefix_append _ _)

end TokenConsole.Text
