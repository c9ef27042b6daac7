import Mathlib.Data.List.Flatten
import TokenConsole.Proofs.Text.Utf8
import TokenConsole.Proofs.Url.Suffix

/-!
# Texts that are one segment

What stands behind the last slash of an address is read as marks, slashes and dots first. A text
that has none of them there becomes a segment of its own, from which it can be read back, and no
other text does.
-/
namespace TokenConsole.Url

open String (utf8EncodeChar)

/-- A text that stands for itself at the end of an address. -/
structure Literal (text : String) : Prop where
  unmarked : ∀ c ∈ text.toList, c ∉ ['#', '?', '/', '\\', '\t', '\n', '\r']
  ending : ∀ c ∈ text.toList.getLast?, 0x20 < c.toNat
  no_dots : text ≠ "." ∧ text ≠ ".."
  no_escape : hasEscape text.toList = false

variable {text : String} {t : Trail}

/-! ### Texts that are literal -/

namespace Literal

theorem kept_eq (h : Literal text) : kept text.toList = text.toList :=
  Text.dropEndWhile_eq_self_iff.2 fun c hc => decide_eq_false (Nat.not_le.2 (h.ending c hc))

theorem not_mem (h : Literal text) {c : Char} (hc : c ∈ ['#', '?', '/', '\\', '\t', '\n', '\r']) :
    c ∉ text.toList :=
  fun hmem => h.unmarked c hmem hc

theorem takeWhile_eq (h : Literal text) {mark : Char}
    (hmark : mark ∈ ['#', '?', '/', '\\', '\t', '\n', '\r']) :
    text.toList.takeWhile (· != mark) = text.toList :=
  takeWhile_of_not_mem (h.not_mem hmark)

theorem plain (h : Literal text) {c : Char} (hc : c ∈ text.toList) :
    isBreak c = false ∧ isAnySlash c = false := by
  have hmarks := h.unmarked c hc
  simp only [List.mem_cons, List.not_mem_nil, not_or] at hmarks
  simp [isBreak, isAnySlash, hmarks]

theorem unbroken_eq (h : Literal text) : unbroken text.toList = text.toList :=
  List.filter_eq_self.2 fun c hc => by rw [(h.plain hc).1]; rfl

theorem addedPath_eq (h : Literal text) : addedPath text.toList = text.toList := by
  rw [addedPath, h.kept_eq, h.takeWhile_eq (by decide), h.takeWhile_eq (by decide), h.unbroken_eq]

theorem addedQuery_eq (h : Literal text) : addedQuery text.toList = none := by
  rw [addedQuery, h.kept_eq, h.takeWhile_eq (by decide)]
  exact marked?_eq_none_iff.2 (h.not_mem (by decide))

theorem addedFragment_eq (h : Literal text) : addedFragment text.toList = none := by
  rw [addedFragment, h.kept_eq]
  exact marked?_eq_none_iff.2 (h.not_mem (by decide))

/-- The segment that a text becomes. -/
def segment (text : String) : List Char := percentEncode inPathSet text.toList

theorem percentDecode_segment (h : Literal text) :
    percentDecode (segment text) = Text.Utf8.encode text :=
  percentDecode_percentEncode h.no_escape

theorem isDots_eq (h : Literal text) : Trail.isDots text.toList = false := by
  have hnone : ∀ (k : Nat) (dots : String), Text.Utf8.encode dots = List.replicate k 0x2E →
      text ≠ dots → dots? (segment text) ≠ some k := by
    intro k dots hdots hne hk
    have hbytes := percentDecode_of_dots hk
    rw [h.percentDecode_segment, ← hdots] at hbytes
    exact hne (Text.Utf8.encode_inj.1 hbytes)
  rw [Trail.isDots, h.unbroken_eq]
  exact Bool.or_eq_false_iff.2 ⟨beq_eq_false_iff_ne.2 (hnone 1 "." (by decide) h.no_dots.1),
    beq_eq_false_iff_ne.2 (hnone 2 ".." (by decide) h.no_dots.2)⟩

theorem toList_text_path (h : Literal text) (t : Trail) :
    (t.path (addedPath text.toList)).text.toList = (t.path []).text.toList ++ segment text := by
  have hslash : ∀ c ∈ text.toList, isAnySlash c = false := fun c hc => (h.plain hc).2
  rw [h.addedPath_eq, Trail.toList_text_path_of_name hslash h.isDots_eq, Trail.toList_text_path_nil,
    h.unbroken_eq, List.append_assoc]
  rfl

/-- What stands behind a hash sign is no part of a path. -/
theorem added_hash (h : Literal text) (rest : String) :
    addedPath (text ++ "#" ++ rest).toList = addedPath text.toList ∧
      addedQuery (text ++ "#" ++ rest).toList = addedQuery text.toList := by
  have hlist : (text ++ "#" ++ rest).toList = text.toList ++ '#' :: rest.toList := by simp
  have hkept : (kept (text ++ "#" ++ rest).toList).takeWhile (· != '#') =
      (kept text.toList).takeWhile (· != '#') := by
    rw [hlist, kept, Text.dropEndWhile_append_stop (by rfl), Text.takeWhile_append_stop (by rfl),
      h.kept_eq]
  rw [addedPath, addedQuery, hkept, addedPath, addedQuery]
  exact ⟨rfl, rfl⟩

theorem slash_not_mem_segment (h : Literal text) : '/' ∉ segment text :=
  slash_not_mem_percentEncode (h.not_mem (by decide))

end Literal

/-! ### Texts that are not -/

/-- Whoever leaves out characters leaves out bytes. -/
theorem eq_of_sublist_of_length {s l : List Char} (h : l.Sublist s)
    (hbytes : (s.flatMap utf8EncodeChar).length ≤ (l.flatMap utf8EncodeChar).length) : l = s := by
  induction h with
  | slnil => rfl
  | cons c h ih =>
    have hle := (h.flatMap utf8EncodeChar).length_le
    have hpos := length_utf8EncodeChar_pos c
    rw [List.flatMap_cons, List.length_append] at hbytes
    omega
  | cons_cons c h ih =>
    rw [List.flatMap_cons, List.flatMap_cons, List.length_append, List.length_append] at hbytes
    rw [ih (by omega)]

theorem addedPath_sublist (s : List Char) : (addedPath s).Sublist s := by
  have hkept : (kept s).Sublist s := (Text.dropEndWhile_prefix_self _ _).sublist
  exact List.filter_sublist.trans
    ((List.takeWhile_sublist _).trans ((List.takeWhile_sublist _).trans hkept))

/-- A text is literal if its last segment has all of its characters, leads somewhere and has no
escapes. -/
theorem literal_of_last {last : List Char} (hlast : last <:+ addedPath text.toList)
    (hslash : ∀ c ∈ last, isAnySlash c = false) (hdots : Trail.isDots last = false)
    (hall : unbroken last = text.toList) (hescape : hasEscape text.toList = false) :
    Literal text := by
  -- every step from the text to its last segment may leave out characters, and none does
  have hsame : ∀ {s : List Char}, text.toList.Sublist s → s.Sublist text.toList →
      s = text.toList := fun h h' => h'.eq_of_length_le h.length_le
  have hbefore := List.takeWhile_sublist (· != '#') (l := kept text.toList)
  have hplace := List.takeWhile_sublist (· != '?') (l := (kept text.toList).takeWhile (· != '#'))
  have hkept : (kept text.toList).Sublist text.toList := (Text.dropEndWhile_prefix_self _ _).sublist
  have hin : text.toList.Sublist last := hall ▸ List.filter_sublist
  have hin' :
      text.toList.Sublist (((kept text.toList).takeWhile (· != '#')).takeWhile (· != '?')) :=
    (hin.trans hlast.sublist).trans List.filter_sublist
  have hlast_eq := hsame hin (hlast.sublist.trans (addedPath_sublist text.toList))
  have hplace_eq := hsame hin' (hplace.trans (hbefore.trans hkept))
  have hbefore_eq := hsame (hin'.trans hplace) (hbefore.trans hkept)
  have hkept_eq := hsame ((hin'.trans hplace).trans hbefore) hkept
  rw [hbefore_eq] at hplace_eq
  rw [hkept_eq] at hbefore_eq
  subst hlast_eq
  refine ⟨fun c hc hmem => ?_, fun c hc => ?_, ⟨?_, ?_⟩, hescape⟩
  · have hnone : ∀ d ∈ ['#', '?', '/', '\\', '\t', '\n', '\r'],
        ((d != '#') && (d != '?') && !isBreak d && !isAnySlash d) = false := by
      simp [isBreak, isAnySlash]
    have hhash := List.takeWhile_eq_self_iff.1 hbefore_eq c hc
    have hmark := List.takeWhile_eq_self_iff.1 hplace_eq c hc
    have hbreak := List.filter_eq_self.1 hall c hc
    have hc' := hnone c hmem
    rw [hhash, hmark, hbreak, hslash c hc] at hc'
    cases hc'
  · have houter := Text.dropEndWhile_eq_self_iff.1 hkept_eq c hc
    exact Nat.not_le.1 (of_decide_eq_false houter)
  · rintro rfl
    exact absurd hdots (by decide)
  · rintro rfl
    exact absurd hdots (by decide)

/-- A text can be read back from the segment behind the place if and only if it is literal. -/
theorem path_names_iff (t : Trail) (text : String) :
    (∃ name, '/' ∉ name ∧
        (t.path (addedPath text.toList)).text.toList = (t.path []).text.toList ++ name ∧
        percentDecode name = Text.Utf8.encode text) ↔ Literal text := by
  constructor
  · rintro ⟨name, hname, htext, hdecode⟩
    obtain ⟨last, before, name', htext', hlast, hslash, hcases⟩ :=
      t.exists_last_segment (addedPath text.toList)
    have hslash' : '/' ∉ name' := by
      rcases hcases with rfl | ⟨-, rfl⟩
      · exact List.not_mem_nil
      · refine slash_not_mem_percentEncode fun hmem => ?_
        exact absurd (hslash '/' (List.filter_sublist.subset hmem)) (by decide)
    have hsegment : name' = name := by
      have hends : before ++ '/' :: name' = t.front ++ '/' :: name := by
        rw [← htext', htext, Trail.toList_text_path_nil, List.append_assoc, List.singleton_append]
      exact segment_unique hslash' hname hends
    subst hsegment
    rcases hcases with rfl | ⟨hdots, rfl⟩
    · -- nothing is read back, so there was nothing
      obtain rfl : text = "" := Text.Utf8.encode_inj.1 hdecode.symm
      exact ⟨nofun, nofun, by decide, rfl⟩
    · have hsub : (unbroken last).Sublist text.toList :=
        List.filter_sublist.trans (hlast.sublist.trans (addedPath_sublist text.toList))
      have hall : unbroken last = text.toList := by
        refine eq_of_sublist_of_length hsub ?_
        have hle := length_percentDecode_le (unbroken last)
        rwa [hdecode] at hle
      refine literal_of_last hlast hslash hdots hall (Bool.eq_false_iff.2 fun hescape => ?_)
      have hlt := length_percentDecode_lt (hall ▸ hescape)
      rw [hdecode, hall] at hlt
      exact Nat.lt_irrefl _ hlt
  · intro h
    exact ⟨Literal.segment text, h.slash_not_mem_segment, h.toList_text_path t,
      h.percentDecode_segment⟩

end TokenConsole.Url
