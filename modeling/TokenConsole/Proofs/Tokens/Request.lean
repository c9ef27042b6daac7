import Mathlib.Data.List.DropRight
import TokenConsole.Proofs.Tokens.Draft

/-!
# What the request for a token is made of

The request read off the history of the dialog. It has the last text and the last choice since the
dialog was opened; a text for the seconds counts only if it was entered after the choice that put
its field on the screen, so what is out of sight has no influence.
-/
namespace TokenConsole.Tokens

open TokenConsole.Gateway (Flow)

namespace Act

/-- What the dialog offers: texts for its text fields, and the choices of its select field. -/
def IsOffered : Act → Prop
  | .message _ (.input field _) _ => field = "plaintext" ∨ field = "ttl_custom"
  | .message _ (.select field choice) _ => field = "ttl_select" ∧ choice ∈ ttlChoices
  | _ => True

instance : DecidablePred IsOffered
  | .opened _ => inferInstanceAs (Decidable True)
  | .message _ m _ => match m with
    | .input field _ => inferInstanceAs (Decidable (field = "plaintext" ∨ field = "ttl_custom"))
    | .select field choice =>
      inferInstanceAs (Decidable (field = "ttl_select" ∧ choice ∈ ttlChoices))
    | .submit | .submitted _ | .close | .focusNext | .focusPrevious | .tick _ =>
      inferInstanceAs (Decidable True)

def opens : Act → Bool
  | .opened _ => true
  | .message .. => false

/-- The text that is entered in the field of a name. -/
def text? (name : String) : Act → Option String
  | .message _ (.input field value) _ => if field = name then some value else none
  | _ => none

def choice? : Act → Option String
  | .message _ (.select _ choice) _ => some choice.value
  | _ => none

/-- No other choice than `custom` is made. -/
def staysCustom (a : Act) : Bool := a.choice?.all (· = customTtl)

end Act

def sinceOpen (h : List Act) : List Act := h.rtakeWhile fun a => !a.opens

def lastText (name : String) (h : List Act) : Option String :=
  (h.filterMap (Act.text? name)).getLast?

/-- The last choice, which is `none` to begin with. -/
def lastChoice (h : List Act) : String := (h.filterMap Act.choice?).getLast?.getD "none"

/-- What was done since the choice went from another one to `custom`. -/
def sinceCustom (h : List Act) : List Act :=
  ((h.rtakeWhile Act.staysCustom).dropWhile fun a => a.choice?.isNone).tail

/-- The draft that a history since the last opening leaves. -/
def remembered (s : List Act) : Draft where
  plaintext := (lastText "plaintext" s).getD ""
  choice := lastChoice s
  custom := if lastChoice s = customTtl then (lastText "ttl_custom" (sinceCustom s)).getD "" else ""

section

variable (s : List Act) (a : Act)

theorem sinceOpen_snoc : sinceOpen (s ++ [a]) = if a.opens then [] else sinceOpen s ++ [a] := by
  rw [sinceOpen, List.rtakeWhile_concat]
  cases a.opens <;> rfl

theorem lastText_snoc (name : String) :
    lastText name (s ++ [a]) = (a.text? name).or (lastText name s) := by
  rw [lastText, List.filterMap_append, List.getLast?_append]
  cases ht : a.text? name <;> simp [ht, lastText]

theorem lastChoice_snoc : lastChoice (s ++ [a]) = a.choice?.getD (lastChoice s) := by
  rw [lastChoice, List.filterMap_append, List.getLast?_append]
  cases hc : a.choice? <;> simp [hc, lastChoice]

/-- There is a switch to `custom` to be found if that is the choice. -/
theorem switch_iff : (s.rtakeWhile Act.staysCustom).dropWhile (fun a => a.choice?.isNone) = [] ↔
    lastChoice s ≠ customTtl := by
  induction s using List.reverseRecOn with
  | nil => exact ⟨fun _ => by decide, fun _ => rfl⟩
  | append_singleton s a ih =>
    rw [List.rtakeWhile_concat, lastChoice_snoc, Act.staysCustom]
    cases hc : a.choice? with
    | none =>
      rw [Option.all_none, if_pos rfl, Option.getD_none, ← ih, List.dropWhile_append]
      split
      · next he => simp [hc, List.isEmpty_iff.1 he]
      · next he =>
        have hne := mt List.isEmpty_iff.2 he
        exact ⟨fun hnil => absurd hnil (by simp), fun hnil => absurd hnil hne⟩
    | some c =>
      by_cases hcustom : c = customTtl
      · simp [hcustom, hc]
      · simp [hcustom]

variable {a} in
theorem sinceCustom_snoc (h : a.staysCustom = true) : sinceCustom (s ++ [a]) =
    if lastChoice s = customTtl then sinceCustom s ++ [a] else [] := by
  rw [sinceCustom, List.rtakeWhile_concat, if_pos h, List.dropWhile_append]
  by_cases hl : lastChoice s = customTtl
  · have hne := mt (switch_iff s).1 (not_not.2 hl)
    rw [if_neg (by simpa using hne), if_pos hl, List.tail_append_of_ne_nil hne]
    rfl
  · have hnil := (switch_iff s).2 hl
    rw [if_pos (by rw [hnil]; rfl), if_neg hl, List.dropWhile_cons]
    split <;> rfl

variable {a}

/-- An act that makes no choice adds its text for the seconds while the choice is `custom`. -/
theorem remembered_snoc_of_calm (h : a.choice? = none) : remembered (s ++ [a]) =
    { plaintext := (a.text? "plaintext").getD (remembered s).plaintext
      choice := (remembered s).choice
      custom := if (remembered s).choice = customTtl then
        (a.text? "ttl_custom").getD (remembered s).custom else "" } := by
  have hcustom : a.staysCustom = true := by
    rw [Act.staysCustom, h]
    rfl
  simp only [remembered, lastText_snoc, lastChoice_snoc, h, Option.getD_none,
    sinceCustom_snoc s hcustom]
  by_cases hl : lastChoice s = customTtl
  · simp only [if_pos hl, lastText_snoc, Option.getD_or]
  · simp only [if_neg hl, Option.getD_or]

/-- A choice keeps the text for the seconds if it is `custom` again. -/
theorem remembered_snoc_of_choice {c : String} (h : a.choice? = some c)
    (hp : a.text? "plaintext" = none) (hc : a.text? "ttl_custom" = none) :
    remembered (s ++ [a]) =
      { plaintext := (remembered s).plaintext
        choice := c
        custom := if c = customTtl then (remembered s).custom else "" } := by
  rw [remembered, lastText_snoc, hp, lastChoice_snoc, h, remembered]
  by_cases hcustom : c = customTtl
  · have hstays : a.staysCustom = true := by
      rw [Act.staysCustom, h]
      simpa using hcustom
    rw [Option.getD_some, if_pos hcustom, if_pos hcustom, sinceCustom_snoc s hstays]
    by_cases hl : lastChoice s = customTtl
    · rw [if_pos hl, if_pos hl, lastText_snoc, hc]
      rfl
    · rw [if_neg hl, if_neg hl]
      rfl
  · rw [Option.getD_some, if_neg hcustom, if_neg hcustom]
    rfl

/-- One more act makes of the draft what it makes of it in the dialog. -/
theorem remembered_snoc (ho : a.IsOffered) (h : a.opens = false) :
    remembered (s ++ [a]) = a.onDraft (remembered s) := by
  have htidy : (remembered s).choice ≠ customTtl → (remembered s).custom = "" :=
    fun hne => if_neg hne
  cases a with
  | opened restore => cases h
  | message now m toasts =>
    cases m with
    | input field value =>
      rw [remembered_snoc_of_calm s rfl]
      rcases ho with rfl | rfl
      · simp [Act.text?, Act.onDraft, Dialog.Message.entry?, Draft.enter, Draft.adjust]
      · simp [Act.text?, Act.onDraft, Dialog.Message.entry?, Draft.enter, Draft.adjust]
    | select field choice =>
      rw [remembered_snoc_of_choice s rfl rfl rfl, ho.1]
      simp [Act.onDraft, Dialog.Message.entry?, Draft.enter, Draft.adjust]
    | _ =>
      rw [remembered_snoc_of_calm s rfl]
      exact Draft.adjust_of_emptied htidy

end

/-- The fields hold what the history since the last opening says. -/
theorem draftAfter_eq {h : List Act} (ho : ∀ a ∈ h, a.IsOffered) :
    draftAfter h = remembered (sinceOpen h) := by
  induction h using List.reverseRecOn with
  | nil => rfl
  | append_singleton h a ih =>
    have hrest : draftAfter h = remembered (sinceOpen h) :=
      ih fun b hb => ho b (List.mem_append_left _ hb)
    rw [draftAfter_snoc, sinceOpen_snoc, hrest]
    cases ha : a.opens with
    | true =>
      cases a with
      | opened restore => rfl
      | message now m toasts => cases ha
    | false => exact (remembered_snoc _ (ho a (by simp)) ha).symm

theorem lastChoice_mem {s : List Act} (ho : ∀ a ∈ s, a.IsOffered) :
    lastChoice s ∈ ttlChoices.map (·.value) := by
  induction s using List.reverseRecOn with
  | nil => decide
  | append_singleton s a ih =>
    rw [lastChoice_snoc]
    cases hc : a.choice? with
    | none => exact ih fun b hb => ho b (List.mem_append_left _ hb)
    | some c =>
      have ha := ho a (by simp)
      cases a with
      | opened restore => cases hc
      | message now m toasts =>
        cases m with
        | select field choice =>
          cases hc
          exact List.mem_map_of_mem ha.2
        | _ => cases hc

/-! ### What has no influence -/

/-- The drafts agree but for the text for the seconds. -/
def Draft.Agrees (x y : Draft) : Prop := x.plaintext = y.plaintext ∧ x.choice = y.choice

theorem Draft.Agrees.onDraft {x y : Draft} (h : x.Agrees y) (a : Act) :
    (a.onDraft x).Agrees (a.onDraft y) := by
  cases a with
  | opened restore => exact ⟨rfl, rfl⟩
  | message now m toasts =>
    simp only [Act.onDraft]
    cases m.entry? with
    | none => exact h
    | some e =>
      constructor
      · simp only [Draft.enter, Draft.adjust, h.1]
      · simp only [Draft.enter, Draft.adjust, h.2]

theorem Draft.Agrees.foldl {x y : Draft} (h : x.Agrees y) (acts : List Act) :
    (acts.foldl (fun x a => a.onDraft x) x).Agrees (acts.foldl (fun x a => a.onDraft x) y) := by
  induction acts generalizing x y with
  | nil => exact h
  | cons a acts ih => exact ih (h.onDraft a)

/-- Drafts that agree are the same if the field for the seconds is not on the screen. -/
theorem draftAfter_eq_of_hidden {h h' : List Act} (hd : (draftAfter h).Agrees (draftAfter h'))
    (hh : HidesCustom (after h).form) : draftAfter h = draftAfter h' := by
  have hs := settled_after h
  have hs' := settled_after h'
  have hne : (draftAfter h).choice ≠ customTtl := hs.hidden.1 hh
  have hcustom : (draftAfter h).custom = (draftAfter h').custom := by
    rw [hs.emptied hne, hs'.emptied (hd.2 ▸ hne)]
  exact Draft.ext hd.1 hd.2 hcustom

/-- An accepted submission has a text that was entered. -/
theorem lastText_of_accepts {h : List Act} (ho : ∀ a ∈ h, a.IsOffered)
    (ha : (after h).accepts = true) :
    lastText "plaintext" (sinceOpen h) = some (draftAfter h).plaintext := by
  have hfilled := plaintext_of_accepts ha
  rw [draftAfter_eq ho] at hfilled ⊢
  cases hl : lastText "plaintext" (sinceOpen h) with
  | none =>
    have hblank : Text.trim "" = "" := by decide
    rw [remembered, hl] at hfilled
    exact absurd hblank hfilled
  | some plaintext => rw [remembered, hl, Option.getD_some]

theorem lifetime_of_history {h : List Act} (ho : ∀ a ∈ h, a.IsOffered) (n : Nat) :
    lifetime? (draftAfter h).choice (draftAfter h).custom = some n ↔
      LivesFor (lastChoice (sinceOpen h))
        (lastText "ttl_custom" (sinceCustom (sinceOpen h))) n := by
  have hchoice : lastChoice (sinceOpen h) ∈ ttlChoices.map (·.value) :=
    lastChoice_mem fun a hmem => ho a ((List.rtakeWhile_suffix _ h).mem hmem)
  rw [draftAfter_eq ho, ← lifetime?_eq_some_iff hchoice]
  by_cases hc : lastChoice (sinceOpen h) = customTtl
  · rw [remembered, if_pos hc]
  · dsimp only [remembered]
    rw [if_neg hc, lifetime?_of_choice hchoice, lifetime?_of_choice hchoice, if_neg hc, if_neg hc]

/-- Nothing that was entered before the dialog was opened has an influence. -/
theorem submission_of_opened (h₁ h₂ : List Act) (restore₁ restore₂ : Option Input) (h : List Act) :
    (after (h₁ ++ .opened restore₁ :: h)).submission =
      (after (h₂ ++ .opened restore₂ :: h)).submission := by
  have hdraft : draftAfter (h₁ ++ .opened restore₁ :: h) =
      draftAfter (h₂ ++ .opened restore₂ :: h) := by
    rw [draftAfter_append, draftAfter_append]
    rfl
  rw [submission_after, submission_after, hdraft]

/-- Nothing that is entered for the seconds has an influence if their field is not on the screen, or
leaves it later. -/
theorem submission_of_hidden {h₁ h₂ : List Act} {now : Nat} {text : String} {toasts : Toasts}
    (hh : HidesCustom (after h₁).form ∨
      HidesCustom (after (h₁ ++ .message now (.input "ttl_custom" text) toasts :: h₂)).form)
    (h₃ : List Act) :
    (after (h₁ ++ .message now (.input "ttl_custom" text) toasts :: (h₂ ++ h₃))).submission =
      (after (h₁ ++ (h₂ ++ h₃))).submission := by
  have hdraft : draftAfter (h₁ ++ .message now (.input "ttl_custom" text) toasts :: h₂) =
      draftAfter (h₁ ++ h₂) := by
    have hagrees : (draftAfter (h₁ ++ [.message now (.input "ttl_custom" text) toasts])).Agrees
        (draftAfter h₁) := by
      rw [draftAfter_snoc]
      exact ⟨rfl, rfl⟩
    rcases hh with hh | hh
    · have hs := settled_after h₁
      have hne : (draftAfter h₁).choice ≠ customTtl := hs.hidden.1 hh
      have hsame : Draft.enter "ttl_custom" text (draftAfter h₁) = draftAfter h₁ := by
        simp [Draft.enter, Draft.adjust, hne, ← hs.emptied hne]
      rw [draftAfter_append, draftAfter_append, List.foldl_cons]
      exact congrArg (fun x => h₂.foldl (fun x a => a.onDraft x) x) hsame
    · refine draftAfter_eq_of_hidden ?_ hh
      rw [draftAfter_append _ h₂, draftAfter_append, List.foldl_cons]
      rw [draftAfter_snoc] at hagrees
      exact hagrees.foldl h₂
  have hall : draftAfter (h₁ ++ .message now (.input "ttl_custom" text) toasts :: (h₂ ++ h₃)) =
      draftAfter (h₁ ++ (h₂ ++ h₃)) := by
    rw [← List.append_assoc h₁ h₂, draftAfter_append (h₁ ++ h₂), ← hdraft, ← draftAfter_append,
      List.append_assoc, List.cons_append]
  rw [submission_after, submission_after, hall]

/-- The request is made of the last text and the last choice since the dialog was opened, and if
that choice is `custom`, of the last text for the seconds since it was switched to. So neither what
was entered before the dialog was opened, nor a text for the seconds that is out of sight, has an
influence. -/
theorem tokenize_request_of_history :
    (∀ h : List Act, (∀ a ∈ h, a.IsOffered) → (after h).accepts = true → ∃ plaintext ttl,
      (∀ now toasts, flows ((after h).update now .submit toasts).effects =
        [(Flow.ask (.tokenize plaintext ttl)).map .submitted]) ∧
      lastText "plaintext" (sinceOpen h) = some plaintext ∧
      ∀ n, ttl = some n ↔ LivesFor (lastChoice (sinceOpen h))
        (lastText "ttl_custom" (sinceCustom (sinceOpen h))) n) ∧
    (∀ h₁ h₂ restore₁ restore₂ h, (after (h₁ ++ .opened restore₁ :: h)).submission =
      (after (h₂ ++ .opened restore₂ :: h)).submission) ∧
    ∀ h₁ now text toasts h₂ h₃, HidesCustom (after h₁).form ∨
        HidesCustom (after (h₁ ++ .message now (.input "ttl_custom" text) toasts :: h₂)).form →
      (after (h₁ ++ .message now (.input "ttl_custom" text) toasts :: (h₂ ++ h₃))).submission =
        (after (h₁ ++ (h₂ ++ h₃))).submission := by
  refine ⟨fun h ho ha => ⟨(draftAfter h).plaintext,
    lifetime? (draftAfter h).choice (draftAfter h).custom, fun now toasts => ?_,
    lastText_of_accepts ho ha, lifetime_of_history ho⟩, submission_of_opened,
    fun h₁ now text toasts h₂ h₃ hh => submission_of_hidden hh h₃⟩
  have hsubmits : Dialog.Message.submits (after h) .submit = true := ha
  rw [Dialog.flows_update, if_pos hsubmits, submission_after]

def hidingAct : Act := .message 0 (.select "ttl_select" ⟨"300", "5 minutes"⟩) (.empty 4000)

def customAct : Act := .message 0 (.select "ttl_select" ⟨customTtl, "Custom"⟩) (.empty 4000)

def textAct (name value : String) : Act := .message 0 (.input name value) (.empty 4000)

/-- A text for the seconds is lost from sight, and another one takes its place. -/
def entering : List Act :=
  [textAct "plaintext" "a", .opened none, textAct "plaintext" " x ", customAct,
    textAct "ttl_custom" "5", hidingAct, customAct, textAct "ttl_custom" " +7 "]

theorem request_of_entering :
    ∃ ttl, (∀ now toasts, flows ((after entering).update now .submit toasts).effects =
        [(Flow.ask (.tokenize " x " ttl)).map .submitted]) ∧
      ttl = some 7 ∧
      (after entering).submission = (after [.opened none, textAct "plaintext" " x ", customAct,
        hidingAct, customAct, textAct "ttl_custom" " +7 "]).submission := by
  obtain ⟨hrequest, hopened, hhidden⟩ := tokenize_request_of_history
  obtain ⟨plaintext, ttl, hflows, hlast, httl⟩ := hrequest entering (by decide) (by decide)
  have hplain : lastText "plaintext" (sinceOpen entering) = some " x " := by decide
  have hchoice : lastChoice (sinceOpen entering) = customTtl := by decide
  have hcustom : lastText "ttl_custom" (sinceCustom (sinceOpen entering)) = some " +7 " := by
    decide
  have hseven : Number.Writes (Text.trim " +7 ").toList 7 :=
    ⟨['7'], .inr (by decide), by decide, by simp, by decide⟩
  cases Option.some.inj (hplain.symm.trans hlast)
  have hlives : ttl = some 7 :=
    (httl 7).2 (.inr ⟨hchoice, " +7 ", hcustom, hseven, by decide, by decide⟩)
  refine ⟨ttl, hflows, hlives, ?_⟩
  refine (hopened [textAct "plaintext" "a"] [] none none _).trans ?_
  exact hhidden [.opened none, textAct "plaintext" " x ", customAct] 0 "5" (.empty 4000)
    [hidingAct] _ (.inr ⟨_, rfl, rfl⟩)

end TokenConsole.Tokens
