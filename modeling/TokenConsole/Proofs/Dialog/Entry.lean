import TokenConsole.Proofs.Dialog.Submission
import TokenConsole.Proofs.Form.Values

/-!
# What is entered in a dialog

Messages change the form of a dialog in two ways only: a text or a choice is entered in a field, or
the required field is marked after a submission was refused. Opening the dialog empties the form.
-/
namespace TokenConsole

/-- The required field is not blank, if there is one. -/
def Form.Filled (form : Form) : Prop :=
  ∀ f ∈ form.fields, f.name = form.required → Text.trim f.value ≠ ""

instance (form : Form) : Decidable form.Filled :=
  inferInstanceAs (Decidable (∀ f ∈ form.fields, _))

namespace Dialog

open TokenConsole.Gateway (Error Flow)

variable {α : Type}

/-- The field and the value that a message enters in it. -/
def Message.entry? : Message α → Option (String × String)
  | .input field value => some (field, value)
  | .select field choice => some (field, choice.value)
  | _ => none

@[simp] theorem openWith_form (restore : Option Input) (d : Dialog α) :
    (d.openWith restore).1.form = d.form.reset := rfl

@[simp] theorem close_form (d : Dialog α) : d.close.1.form = d.form := rfl

@[simp] theorem moveFocus_form (forward : Bool) (d : Dialog α) :
    (d.moveFocus forward).1.form = d.form := by
  obtain ⟨next, hd, -⟩ := d.moveFocus_cases forward
  rw [hd]

theorem submit_form_cases (now : Nat) (d : Dialog α) :
    (d.submit now).1.form = d.form ∨
      (d.submit now).1.form = d.form.invalidate d.form.required := by
  unfold submit
  split
  · exact .inl rfl
  · split
    · next f hb =>
      have hname : f.name = d.form.required :=
        (Form.field?_eq_some (Option.filter_eq_some_iff.1 hb).1).2
      exact .inr (congrArg d.form.invalidate hname)
    · exact .inl rfl

section

variable {form : Form} (hd : form.Distinct)
include hd

theorem blankRequired?_eq_some_iff {f : Field} : blankRequired? form = some f ↔
    f ∈ form.fields ∧ f.name = form.required ∧ Text.trim f.value = "" := by
  have hblank : ∀ {f}, form.field? form.required = some f →
      (Text.isBlank ((form.payload.get? f.name).getD "") = true ↔ Text.trim f.value = "") := by
    intro f hf
    rw [Form.payload_get? hd, (Form.field?_eq_some hf).2, Form.value?, hf]
    exact Text.isBlank_iff_trim f.value
  rw [blankRequired?, Form.required?, Option.filter_eq_some_iff]
  constructor
  · intro h
    obtain ⟨hf, hb⟩ := h
    obtain ⟨hmem, hname⟩ := Form.field?_eq_some hf
    exact ⟨hmem, hname, (hblank hf).1 hb⟩
  · intro h
    obtain ⟨hmem, hname, ht⟩ := h
    have hf : form.field? form.required = some f := hname ▸ Form.field?_of_mem hd hmem
    exact ⟨hf, (hblank hf).2 ht⟩

theorem blankRequired?_eq_none_iff : blankRequired? form = none ↔ form.Filled := by
  rw [Option.eq_none_iff_forall_ne_some]
  constructor
  · intro h f hmem hname ht
    exact h f ((blankRequired?_eq_some_iff hd).2 ⟨hmem, hname, ht⟩)
  · intro h f hf
    obtain ⟨hmem, hname, ht⟩ := (blankRequired?_eq_some_iff hd).1 hf
    exact h f hmem hname ht

end

theorem accepts_iff {d : Dialog α} (hd : d.form.Distinct) :
    d.accepts = true ↔ d.isOpen = true ∧ d.isSubmitting = false ∧ d.form.Filled := by
  rw [accepts, Bool.and_eq_true, Bool.and_eq_true, Bool.not_eq_true', Option.isNone_iff_eq_none,
    blankRequired?_eq_none_iff hd, and_assoc]

/-- A submission is accepted only if the required field is filled in. -/
theorem required_of_accepts {d : Dialog α} (ha : d.accepts = true) {form' : Form}
    (h : d.form.declared = form'.declared) (hd : form'.Distinct) (name : String)
    (hn : form'.required = name) {g : Field} (hg : form'.field? name = some g) :
    ∃ v, d.form.value? name = some v ∧ Text.trim v ≠ "" := by
  have hrequired : d.form.required = name := by
    change d.form.declared.required = name
    rw [h]
    exact hn
  obtain ⟨f, hf, -⟩ := Form.field?_of_declared _ h hg
  obtain ⟨hmem, hname⟩ := Form.field?_eq_some hf
  obtain ⟨-, -, hfilled⟩ := (accepts_iff (Form.distinct_of_declared h hd)).1 ha
  refine ⟨f.value, ?_, hfilled f hmem (hname.trans hrequired.symm)⟩
  rw [Form.value?, hf]
  rfl

section

variable [Outcome α] (now : Nat) (m : Message α) (d : Dialog α) (toasts : Toasts)

variable {m} in
theorem update_form_of_entry {name value : String} (h : m.entry? = some (name, value)) :
    (d.update now m toasts).dialog.form = (d.form.set name value).1 := by
  cases m with
  | input field v =>
    cases h
    rfl
  | select field choice =>
    cases h
    simp only [update]
    split <;> rfl
  | _ => cases h

variable {m} in
/-- A message that enters nothing changes no value. -/
theorem update_form_cases (h : m.entry? = none) :
    (d.update now m toasts).dialog.form = d.form ∨
      (d.update now m toasts).dialog.form = d.form.invalidate d.form.required := by
  cases m with
  | input field v => cases h
  | select field choice => cases h
  | submit => exact d.submit_form_cases now
  | tick t =>
    refine .inl ?_
    simp only [update]
    split
    · split <;> rfl
    · rfl
  | _ => exact .inl (by simp [update, showInline])

theorem update_lasting : (d.update now m toasts).dialog.form.lasting = d.form.lasting := by
  cases hm : m.entry? with
  | some e => rw [d.update_form_of_entry now toasts hm, Form.lasting_set]
  | none =>
    rcases d.update_form_cases now toasts hm with h | h
    · rw [h]
    · rw [h, Form.lasting_invalidate]

theorem update_declared :
    (d.update now m toasts).dialog.form.declared = d.form.declared :=
  Form.declared_of_lasting (d.update_lasting now m toasts)

end

end Dialog

end TokenConsole
