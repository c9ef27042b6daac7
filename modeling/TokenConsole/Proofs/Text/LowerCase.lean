import Mathlib.Data.List.Forall2
import TokenConsole.Text.LowerCase

/-!
# The small form of a part

Every character has one small form, but for the capital sigma: which one it gets depends on what
stands before it and after it. So the small form of a part need not be a part of the small form of
the whole. It is one for a text whose sigmas have enough around them in the text itself.
-/
namespace TokenConsole.Text

/-! ### What a sigma meets -/

theorem meetsCased_cons (c : Char) (s : List Char) :
    meetsCased (c :: s) = if isCaseIgnorable c then meetsCased s else isCased c := by
  unfold meetsCased
  cases hc : isCaseIgnorable c <;> simp [hc]

theorem meetsCased_append (s t : List Char) :
    meetsCased (s ++ t) = if s.all isCaseIgnorable then meetsCased t else meetsCased s := by
  induction s with
  | nil => rfl
  | cons c s ih =>
    rw [List.cons_append, meetsCased_cons, meetsCased_cons, ih, List.all_cons]
    cases isCaseIgnorable c <;> simp

theorem meetsCased_of_all {s : List Char} (h : s.all isCaseIgnorable = true) :
    meetsCased s = false := by
  have happend := meetsCased_append s []
  rw [List.append_nil, if_pos h] at happend
  exact happend

/-- A letter at the end is met if nothing but ignorable characters stands before it. -/
theorem meetsCased_append_letter (s : List Char) :
    meetsCased (s ++ ['A']) = (s.all isCaseIgnorable || meetsCased s) := by
  have hletter : meetsCased ['A'] = true := by decide +kernel
  rw [meetsCased_append, hletter]
  cases s.all isCaseIgnorable <;> rfl

/-- A capital sigma ends a word. The characters before it are given from the nearest on. -/
def isFinal (before after : List Char) : Bool := meetsCased before && !meetsCased after

def smallSigma (before after : List Char) : Char := if isFinal before after then 'ς' else 'σ'

theorem smallSigma_eq_final_iff (before after : List Char) :
    smallSigma before after = 'ς' ↔ isFinal before after = true := by
  unfold smallSigma
  cases isFinal before after <;> decide

theorem smallSigma_eq_medial_iff (before after : List Char) :
    smallSigma before after = 'σ' ↔ isFinal before after = false := by
  unfold smallSigma
  cases isFinal before after <;> decide

/-! ### The small form of a text between others -/

/-- The small form of a text that follows the characters of `before`, the nearest first, and is
followed by those of `after`. -/
def lowerBetween : List Char → List Char → List Char → List Char
  | _, [], _ => []
  | before, c :: rest, after =>
    (if c == 'Σ' then [smallSigma before (rest ++ after)] else lowerChar c) ++
      lowerBetween (c :: before) rest after

theorem lowerAfter_eq (before s : List Char) : lowerAfter before s = lowerBetween before s [] := by
  induction s generalizing before with
  | nil => rfl
  | cons c rest ih =>
    rw [lowerAfter, lowerBetween, ih, List.append_nil, smallSigma, isFinal]
    split
    · split <;> rfl
    · rfl

theorem lowerBetween_append (before s t after : List Char) :
    lowerBetween before (s ++ t) after =
      lowerBetween before s (t ++ after) ++ lowerBetween (s.reverse ++ before) t after := by
  induction s generalizing before with
  | nil => rfl
  | cons c s ih =>
    rw [List.cons_append, lowerBetween, lowerBetween, ih, List.append_assoc, List.append_assoc,
      List.reverse_cons, List.append_assoc, List.singleton_append]

theorem lowerChars_eq (s : List Char) : lowerChars s = lowerBetween [] s [] := lowerAfter_eq [] s

theorem lowerChars_letter_append (s : List Char) :
    lowerChars ('A' :: s) = 'a' :: lowerBetween ['A'] s [] := by
  rw [lowerChars_eq]
  rfl

theorem lowerChars_append_letter (s : List Char) :
    lowerChars (s ++ ['A']) = lowerBetween [] s ['A'] ++ ['a'] := by
  rw [lowerChars_eq, lowerBetween_append]
  rfl

/-- A text with something before it and after it. -/
theorem lowerChars_append (before s after : List Char) : lowerChars (before ++ s ++ after) =
    lowerBetween [] before (s ++ after) ++ lowerBetween before.reverse s after ++
      lowerBetween (s.reverse ++ before.reverse) after [] := by
  rw [lowerChars_eq, lowerBetween_append, lowerBetween_append, List.reverse_append, List.append_nil,
    List.append_nil, List.append_nil, List.append_assoc]

/-- Two small forms of one text agree, character by character, as far as those of its sigmas do. -/
theorem forall₂_lowerBetween {R : Char → Char → Prop} (hR : ∀ c, R c c)
    {before before' s after after' : List Char}
    (h : ∀ front rest, s = front ++ 'Σ' :: rest →
      R (smallSigma (front.reverse ++ before) (rest ++ after))
        (smallSigma (front.reverse ++ before') (rest ++ after'))) :
    List.Forall₂ R (lowerBetween before s after) (lowerBetween before' s after') := by
  induction s generalizing before before' with
  | nil => exact .nil
  | cons c s ih =>
    have hrest : List.Forall₂ R (lowerBetween (c :: before) s after)
        (lowerBetween (c :: before') s after') := by
      refine ih fun front rest he => ?_
      have hsigma := h (c :: front) rest (congrArg (c :: ·) he)
      simpa only [List.reverse_cons, List.append_assoc, List.singleton_append] using hsigma
    rw [lowerBetween, lowerBetween]
    refine List.rel_append ?_ hrest
    split
    · next hc => exact .cons (h [] s (by rw [eq_of_beq hc]; rfl)) .nil
    · -- Any other character has one small form.
      exact List.forall₂_same.2 fun d _ => hR d

/-! ### Texts whose sigmas stay as they are -/

/-- Between these texts each capital sigma gets the small form that it has in the text alone. -/
def KeepsSigmas (before s after : List Char) : Prop :=
  ∀ front rest, s = front ++ 'Σ' :: rest →
    isFinal (front.reverse ++ before.reverse) (rest ++ after) = isFinal front.reverse rest

/-- Each capital sigma of the text meets a cased letter after it in the text, or has so much around
it there that nothing beyond can make a difference. -/
def Steady (s : List Char) : Prop :=
  ∀ front rest, s = front ++ 'Σ' :: rest →
    meetsCased rest = true ∨
      front.all isCaseIgnorable = false ∧
        (meetsCased front.reverse = false ∨ rest.all isCaseIgnorable = false)

/-- What holds of each capital sigma can be checked at each place of the text. -/
theorem forall_sigma_iff {s : List Char} {P : List Char → List Char → Prop} :
    (∀ front rest, s = front ++ 'Σ' :: rest → P front rest) ↔
      ∀ i < s.length, s[i]? = some 'Σ' → P (s.take i) (s.drop (i + 1)) := by
  constructor
  · intro h i hi hsigma
    apply h
    have hget : s[i] = 'Σ' := Option.some.inj ((List.getElem?_eq_getElem hi).symm.trans hsigma)
    rw [← hget, List.getElem_cons_drop, List.take_append_drop]
  · rintro h front rest rfl
    simpa using h front.length (by simp) (by simp)

instance (before s after : List Char) : Decidable (KeepsSigmas before s after) :=
  decidable_of_iff _ forall_sigma_iff.symm

instance (s : List Char) : Decidable (Steady s) := decidable_of_iff _ forall_sigma_iff.symm

theorem steady_of_not_mem {s : List Char} (h : 'Σ' ∉ s) : Steady s := by
  rintro front rest rfl
  exact absurd (List.mem_append_right front List.mem_cons_self) h

theorem Steady.keepsSigmas {s : List Char} (h : Steady s) (before after : List Char) :
    KeepsSigmas before s after := by
  intro front rest he
  rw [isFinal, isFinal, meetsCased_append, meetsCased_append, List.all_reverse]
  rcases h front rest he with hmeets | ⟨hfront, hcased | hrest⟩
  · have hrest : rest.all isCaseIgnorable = false := by
      by_contra hall
      rw [meetsCased_of_all (Bool.not_eq_false _ ▸ hall)] at hmeets
      cases hmeets
    simp [hrest, hmeets]
  · simp [hfront, hcased]
  · simp [hfront, hrest]

theorem lowerChars_infix_of_keepsSigmas {before s after : List Char}
    (h : KeepsSigmas before s after) :
    lowerChars s <:+: lowerChars (before ++ s ++ after) := by
  have hsame : lowerBetween [] s [] = lowerBetween before.reverse s after := by
    rw [← List.forall₂_eq_eq_eq]
    refine forall₂_lowerBetween (fun _ => rfl) fun front rest he => ?_
    rw [smallSigma, smallSigma, h front rest he, List.append_nil, List.append_nil]
  rw [lowerChars_append, lowerChars_eq, hsame]
  exact List.infix_append _ _ _

theorem count_le_of_forall₂ {x : Char} {l l' : List Char}
    (h : List.Forall₂ (fun c d => d = x → c = x) l l') : l'.count x ≤ l.count x := by
  induction h with
  | nil => exact Nat.le_refl _
  | @cons c d l l' hcd _ ih =>
    rw [List.count_cons, List.count_cons]
    by_cases hd : d = x
    · simp [hd, hcd hd, ih]
    · simp only [beq_iff_eq, hd, if_false]
      omega

/-- A sigma that loses a form where no other one takes it leaves one character less of that form. -/
theorem count_lowerBetween_lt {x : Char} {before before' s after after' front rest : List Char}
    (hkept : ∀ front rest, s = front ++ 'Σ' :: rest →
      smallSigma (front.reverse ++ before') (rest ++ after') = x →
        smallSigma (front.reverse ++ before) (rest ++ after) = x)
    (hs : s = front ++ 'Σ' :: rest)
    (hfirst : smallSigma (front.reverse ++ before) (rest ++ after) = x)
    (hlost : smallSigma (front.reverse ++ before') (rest ++ after') ≠ x) :
    (lowerBetween before' s after').count x < (lowerBetween before s after).count x := by
  subst hs
  -- Neither what stands before this sigma nor what stands after it makes up for it.
  have hfront : (lowerBetween before' front ('Σ' :: rest ++ after')).count x ≤
      (lowerBetween before front ('Σ' :: rest ++ after)).count x := by
    refine count_le_of_forall₂ (forall₂_lowerBetween (fun _ => id) fun f r he => ?_)
    have hk := hkept f (r ++ 'Σ' :: rest) (by rw [he]; simp)
    simpa only [List.append_assoc] using hk
  have hrest : (lowerBetween ('Σ' :: (front.reverse ++ before')) rest after').count x ≤
      (lowerBetween ('Σ' :: (front.reverse ++ before)) rest after).count x := by
    refine count_le_of_forall₂ (forall₂_lowerBetween (fun _ => id) fun f r he => ?_)
    have hk := hkept (front ++ 'Σ' :: f) r (by rw [he]; simp)
    simpa using hk
  simp only [lowerBetween_append, lowerBetween, List.count_append, beq_self_eq_true, if_true,
    List.count_singleton, hfirst]
  simp only [beq_iff_eq, hlost, if_false]
  omega

section

variable {s front rest : List Char} (hs : s = front ++ 'Σ' :: rest)
include hs

/-- A letter before the text makes a sigma final that met none, and no final one medial. -/
theorem count_medial_lt (hfront : front.all isCaseIgnorable = true)
    (hrest : meetsCased rest = false) :
    (lowerBetween ['A'] s []).count 'σ' < (lowerBetween [] s []).count 'σ' := by
  refine count_lowerBetween_lt (fun f r _ => ?_) hs ?_ ?_
  · simp only [smallSigma_eq_medial_iff, isFinal, meetsCased_append_letter, List.append_nil,
      Bool.and_eq_false_iff, Bool.or_eq_false_iff]
    exact Or.imp_left And.right
  · have hmeets : meetsCased front.reverse = false :=
      meetsCased_of_all (by rwa [List.all_reverse])
    simp [smallSigma_eq_medial_iff, isFinal, hmeets]
  · simp [smallSigma_eq_medial_iff, isFinal, meetsCased_append_letter, hfront, hrest]

/-- A letter after the text makes its last sigma medial, and no medial one final. -/
theorem count_final_lt (hfront : meetsCased front.reverse = true)
    (hrest : rest.all isCaseIgnorable = true) :
    (lowerBetween [] s ['A']).count 'ς' < (lowerBetween [] s []).count 'ς' := by
  refine count_lowerBetween_lt (fun f r _ => ?_) hs ?_ ?_
  · simp only [smallSigma_eq_final_iff, isFinal, meetsCased_append_letter, List.append_nil,
      Bool.and_eq_true, Bool.not_eq_true', Bool.or_eq_false_iff]
    exact And.imp_right And.right
  · simp [smallSigma_eq_final_iff, isFinal, hfront, meetsCased_of_all hrest]
  · simp [smallSigma_eq_final_iff, isFinal, meetsCased_append_letter, hrest]

end

/-- The small form of a text is a part of that of every text around it only if the text is steady.
A letter before it or after it is enough to tell. -/
theorem steady_of_infix {s : List Char}
    (h : ∀ before after, lowerChars s <:+: lowerChars (before ++ s ++ after)) : Steady s := by
  intro front rest hs
  by_contra hnot
  simp only [not_or, not_and, Bool.not_eq_true, Bool.not_eq_false] at hnot
  obtain ⟨hmeets, hfront⟩ := hnot
  cases hall : front.all isCaseIgnorable with
  | true =>
    have hle := (h ['A'] []).sublist.count_le 'σ'
    rw [List.append_nil, List.singleton_append, lowerChars_letter_append, lowerChars_eq,
      List.count_cons_of_ne (by decide)] at hle
    exact Nat.not_lt.2 hle (count_medial_lt hs hall hmeets)
  | false =>
    obtain ⟨hcased, hrest⟩ := hfront hall
    have hle := (h [] ['A']).sublist.count_le 'ς'
    rw [List.nil_append, lowerChars_append_letter, lowerChars_eq, List.count_append,
      List.count_singleton, if_neg (by decide), Nat.add_zero] at hle
    exact Nat.not_lt.2 hle (count_final_lt hs hcased hrest)

theorem steady_iff {s : List Char} :
    Steady s ↔ ∀ before after, lowerChars s <:+: lowerChars (before ++ s ++ after) :=
  ⟨fun h before after => lowerChars_infix_of_keepsSigmas (h.keepsSigmas before after),
    steady_of_infix⟩

end TokenConsole.Text
