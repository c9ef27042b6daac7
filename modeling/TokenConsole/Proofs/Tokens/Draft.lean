import Mathlib.Data.List.Induction
import TokenConsole.Proofs.Dialog.Entry
import TokenConsole.Proofs.Tokens.Lifetime

/-!
# What the fields of the tokenize dialog hold

The three fields of the dialog, each with what was entered in it. The field for the seconds is on
the screen while the choice is `custom`, and it is emptied when it leaves the screen.
-/
namespace TokenConsole.Tokens

open TokenConsole.Gateway (Flow)

/-- The contents of the three fields. -/
@[ext]
structure Draft where
  plaintext : String
  choice : String
  custom : String

namespace Draft

/-- As the dialog opens. -/
def fresh : Draft := ⟨"", "none", ""⟩

/-- Empties the field for the seconds unless it is on the screen. -/
def adjust (x : Draft) : Draft :=
  { x with custom := if x.choice = customTtl then x.custom else "" }

theorem adjust_of_emptied {x : Draft} (h : x.choice ≠ customTtl → x.custom = "") :
    x.adjust = x := by
  by_cases hx : x.choice = customTtl
  · rw [adjust, if_pos hx]
  · rw [adjust, if_neg hx, ← h hx]

/-- Enters a value in the field of a name. -/
def enter (name value : String) (x : Draft) : Draft :=
  adjust {
    plaintext := if name = "plaintext" then value else x.plaintext
    choice := if name = "ttl_select" then value else x.choice
    custom := if name = "ttl_custom" then value else x.custom }

end Draft

/-- The field for the seconds is not on the screen. -/
def HidesCustom (form : Form) : Prop :=
  ∃ f, form.field? "ttl_custom" = some f ∧ f.visible = false

/-- The form is that of the dialog, and its fields hold the draft. -/
structure Holds (form : Form) (x : Draft) : Prop where
  declared : form.declared = tokenizeDialog.form.declared
  plaintext : form.value? "plaintext" = some x.plaintext
  choice : form.value? "ttl_select" = some x.choice
  custom : form.value? "ttl_custom" = some x.custom

/-- Beyond that, the field for the seconds is on the screen as the choice has it. -/
structure Settled (form : Form) (x : Draft) : Prop extends Holds form x where
  hidden : HidesCustom form ↔ x.choice ≠ customTtl
  emptied : x.choice ≠ customTtl → x.custom = ""

section

variable {form : Form} {x : Draft}

theorem Holds.distinct (h : Holds form x) : form.Distinct :=
  Form.distinct_of_declared h.declared (by decide)

/-- A field of the dialog keeps what it was declared with. -/
theorem field_of_declared (h : form.declared = tokenizeDialog.form.declared) {name : String}
    {g : Field} (hg : tokenizeDialog.form.field? name = some g) :
    ∃ f, form.field? name = some f ∧ f.shownWhen = g.shownWhen ∧ f.initial = g.initial := by
  obtain ⟨f, hf, hd⟩ := Form.field?_of_declared name h hg
  have hshown : f.declared.shownWhen = g.declared.shownWhen := by rw [hd]
  have hinitial : f.declared.initial = g.declared.initial := by rw [hd]
  exact ⟨f, hf, hshown, hinitial⟩

theorem field_plaintext (h : form.declared = tokenizeDialog.form.declared) :
    ∃ f, form.field? "plaintext" = some f ∧ f.shownWhen = none ∧ f.initial = "" :=
  field_of_declared h (g := plaintextField) (by decide)

theorem field_choice (h : form.declared = tokenizeDialog.form.declared) :
    ∃ f, form.field? "ttl_select" = some f ∧ f.shownWhen = none ∧ f.initial = "none" :=
  field_of_declared h (g := ttlField) (by decide)

theorem field_custom (h : form.declared = tokenizeDialog.form.declared) :
    ∃ f, form.field? "ttl_custom" = some f ∧ f.shownWhen = some ("ttl_select", customTtl) ∧
      f.initial = "" :=
  field_of_declared h (g := { customTtlField with visible := false }) (by decide)

/-- Showing and hiding fields leaves the draft as it has to be. -/
theorem Holds.adjust (h : Holds form x) : Settled form.adjust x.adjust := by
  obtain ⟨p, hp, hpshown, -⟩ := field_plaintext h.declared
  obtain ⟨s, hs, hsshown, -⟩ := field_choice h.declared
  obtain ⟨c, hc, hcshown, -⟩ := field_custom h.declared
  have hvalue : c.value = x.custom := by simpa [Form.value?, hc] using h.custom
  have hget : form.payload.get? "ttl_select" = some x.choice := by
    rw [Form.payload_get? h.distinct, h.choice]
  have hfield : form.adjust.field? "ttl_custom" = some (c.adjust form.payload) := by
    rw [Form.field?_adjust, hc]
    rfl
  have hdeclared : form.adjust.declared = tokenizeDialog.form.declared := by
    rw [Form.declared_adjust, h.declared]
  have hplaintext : form.adjust.value? "plaintext" = some x.plaintext := by
    rw [Form.value?_adjust_of_always _ hp hpshown, h.plaintext]
  have hchoice : form.adjust.value? "ttl_select" = some x.choice := by
    rw [Form.value?_adjust_of_always _ hs hsshown, h.choice]
  by_cases hx : x.choice = customTtl
  · have hshown : c.adjust form.payload = { c with visible := true } :=
      Field.adjust_of_shown hcshown (by rw [hget, hx])
    refine ⟨⟨hdeclared, hplaintext, hchoice, ?_⟩, ?_, fun hne => absurd hx hne⟩
    · rw [Form.value?, hfield, hshown, Draft.adjust, if_pos hx, ← hvalue]
      rfl
    · constructor
      · rintro ⟨f, hf, hv⟩
        rw [hfield, hshown] at hf
        cases hf
        cases hv
      · exact fun hne => absurd hx hne
  · have hhidden : c.adjust form.payload =
        { c with visible := false, value := "", valid := true } :=
      Field.adjust_of_hidden hcshown (by rw [hget]; simpa using hx)
    refine ⟨⟨hdeclared, hplaintext, hchoice, ?_⟩, ?_, fun _ => if_neg hx⟩
    · rw [Form.value?, hfield, hhidden, Draft.adjust, if_neg hx]
      rfl
    · exact ⟨fun _ => hx, fun _ => ⟨_, hfield, by rw [hhidden]⟩⟩

/-- Opening the dialog empties it. -/
theorem settled_reset (h : form.declared = tokenizeDialog.form.declared) :
    Settled form.reset .fresh := by
  obtain ⟨p, hp, -, hpinitial⟩ := field_plaintext h
  obtain ⟨s, hs, -, hsinitial⟩ := field_choice h
  obtain ⟨c, hc, -, hcinitial⟩ := field_custom h
  have hrenewed : Holds form.renewed .fresh := by
    refine ⟨(Form.declared_renewed form).trans h, ?_, ?_, ?_⟩
    · rw [Form.value?_renewed _ hp, hpinitial]
      rfl
    · rw [Form.value?_renewed _ hs, hsinitial]
      rfl
    · rw [Form.value?_renewed _ hc, hcinitial]
      rfl
  exact hrenewed.adjust

theorem Settled.invalidate (h : Settled form x) (name : String) :
    Settled (form.invalidate name) x := by
  refine ⟨⟨?_, ?_, ?_, ?_⟩, ?_, h.emptied⟩
  · rw [Form.declared_invalidate, h.declared]
  · rw [Form.value?_invalidate, h.plaintext]
  · rw [Form.value?_invalidate, h.choice]
  · rw [Form.value?_invalidate, h.custom]
  · rw [← h.hidden, HidesCustom, HidesCustom, Form.field?_invalidate]
    split
    · simp only [Option.map_eq_some_iff]
      constructor
      · rintro ⟨f, ⟨f', hf', rfl⟩, hv⟩
        exact ⟨f', hf', hv⟩
      · rintro ⟨f, hf, hv⟩
        exact ⟨_, ⟨f, hf, rfl⟩, hv⟩
    · rfl

theorem Settled.enter (h : Settled form x) (name value : String) :
    Settled (form.set name value).1 (x.enter name value) := by
  cases hf : form.field? name with
  | some f =>
    rw [Form.set_of_field? name value hf]
    refine Holds.adjust ⟨by rw [Form.declared_put, h.declared], ?_, ?_, ?_⟩
    · rw [Form.value?_put, h.plaintext]
      by_cases hn : name = "plaintext"
      · rw [if_pos hn.symm, if_pos hn]
        rfl
      · rw [if_neg (Ne.symm hn), if_neg hn]
    · rw [Form.value?_put, h.choice]
      by_cases hn : name = "ttl_select"
      · rw [if_pos hn.symm, if_pos hn]
        rfl
      · rw [if_neg (Ne.symm hn), if_neg hn]
    · rw [Form.value?_put, h.custom]
      by_cases hn : name = "ttl_custom"
      · rw [if_pos hn.symm, if_pos hn]
        rfl
      · rw [if_neg (Ne.symm hn), if_neg hn]
  | none =>
    -- The name is that of no field, so nothing is entered.
    obtain ⟨p, hp, -⟩ := field_plaintext h.declared
    obtain ⟨s, hs, -⟩ := field_choice h.declared
    obtain ⟨c, hc, -⟩ := field_custom h.declared
    have hother : ∀ {k g}, form.field? k = some g → name ≠ k := by
      rintro k g hg rfl
      rw [hf] at hg
      cases hg
    have hset : (form.set name value).1 = form := by rw [Form.set, hf]
    have hsame : x.enter name value = x := by
      rw [Draft.enter, if_neg (hother hp), if_neg (hother hs), if_neg (hother hc)]
      exact Draft.adjust_of_emptied h.emptied
    rw [hset, hsame]
    exact h

end

/-! ### Histories of the dialog -/

/-- What is done to the dialog: it is opened, or it gets a message, such as the one that closes
it. -/
inductive Act where
  | opened (restore : Option Input)
  | message (now : Nat) (m : Dialog.Message String) (toasts : Toasts)

def Act.onDialog (a : Act) (d : Dialog String) : Dialog String :=
  match a with
  | .opened restore => (d.openWith restore).1
  | .message now m toasts => (d.update now m toasts).dialog

def Act.onDraft (a : Act) (x : Draft) : Draft :=
  match a with
  | .opened _ => .fresh
  | .message _ m _ =>
    match m.entry? with
    | some (name, value) => x.enter name value
    | none => x

/-- The dialog after a history. -/
def after (h : List Act) : Dialog String := h.foldl (fun d a => a.onDialog d) tokenizeDialog

def draftAfter (h : List Act) : Draft := h.foldl (fun x a => a.onDraft x) .fresh

theorem after_snoc (h : List Act) (a : Act) : after (h ++ [a]) = a.onDialog (after h) := by
  simp only [after, List.foldl_append, List.foldl_cons, List.foldl_nil]

theorem draftAfter_snoc (h : List Act) (a : Act) :
    draftAfter (h ++ [a]) = a.onDraft (draftAfter h) := by
  simp only [draftAfter, List.foldl_append, List.foldl_cons, List.foldl_nil]

theorem draftAfter_append (h h' : List Act) :
    draftAfter (h ++ h') = h'.foldl (fun x a => a.onDraft x) (draftAfter h) :=
  List.foldl_append

theorem settled_onDialog {d : Dialog String} {x : Draft} (h : Settled d.form x) (a : Act) :
    Settled (a.onDialog d).form (a.onDraft x) := by
  cases a with
  | opened restore => exact settled_reset h.declared
  | message now m toasts =>
    simp only [Act.onDialog, Act.onDraft]
    cases hm : m.entry? with
    | some e =>
      rw [d.update_form_of_entry now toasts hm]
      exact h.enter e.1 e.2
    | none =>
      rcases d.update_form_cases now toasts hm with he | he
      · rw [he]
        exact h
      · rw [he]
        exact h.invalidate d.form.required

theorem settled_after (h : List Act) : Settled (after h).form (draftAfter h) := by
  induction h using List.reverseRecOn with
  | nil => exact settled_reset (rfl : tokenizeDialog.form.declared = _)
  | append_singleton h a ih =>
    rw [after_snoc, draftAfter_snoc]
    exact settled_onDialog ih a

theorem action_after (h : List Act) : (after h).action = tokenize := by
  induction h using List.reverseRecOn with
  | nil => exact rfl
  | append_singleton h a ih =>
    rw [after_snoc]
    cases a with
    | opened restore => exact ih
    | message now m toasts => exact ((after h).update_action now m toasts).trans ih

/-- The request is made of what the fields hold. -/
theorem submission_after (h : List Act) : (after h).submission =
    (Flow.ask (.tokenize (draftAfter h).plaintext
      (lifetime? (draftAfter h).choice (draftAfter h).custom))).map .submitted := by
  have hs := settled_after h
  have hget : ∀ name, (after h).form.payload.get? name = (after h).form.value? name :=
    Form.payload_get? hs.distinct
  have hplaintext := (hget "plaintext").trans hs.plaintext
  have hchoice := (hget "ttl_select").trans hs.choice
  have hcustom := (hget "ttl_custom").trans hs.custom
  rw [Dialog.submission, action_after, tokenize, hplaintext, ttl?_eq hchoice hcustom]
  rfl

theorem plaintext_of_accepts {h : List Act} (ha : (after h).accepts = true) :
    Text.trim (draftAfter h).plaintext ≠ "" := by
  have hs := settled_after h
  obtain ⟨v, hv, hfilled⟩ := Dialog.required_of_accepts ha hs.declared (by decide) "plaintext"
    rfl (g := plaintextField) (by decide)
  cases Option.some.inj (hs.plaintext.symm.trans hv)
  exact hfilled

end TokenConsole.Tokens
