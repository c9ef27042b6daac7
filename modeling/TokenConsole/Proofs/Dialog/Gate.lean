import TokenConsole.Accounts
import TokenConsole.Proofs.Dialog.Entry

/-!
# What becomes of a submission

A submission is ignored while the dialog is closed or another one is under way, refused while the
required field is blank, and else taken. There is nothing in between: one that is taken runs the
action once with the values of all fields, and one that is refused only says so.
-/
namespace TokenConsole.Dialog

open TokenConsole.Gateway (Error Flow)

section

variable {α : Type} {d : Dialog α} (hd : d.form.Distinct)
include hd

/-- A refused submission marks the required field, says why, and moves the focus there. -/
theorem submit_of_blank (ho : d.isOpen = true) (hs : d.isSubmitting = false) {p : Nat} {f : Field}
    (hp : d.form.fields[p]? = some f) (hname : f.name = d.form.required)
    (hblank : Text.trim f.value = "") (now : Nat) : d.submit now =
      ({ d with
          form := { d.form with fields := d.form.fields.set p { f with valid := false } }
          inline := some ⟨.error, blankField, now + inlineTimeout⟩
          focused := some p },
        [.focus (.field d.name p)]) := by
  have hunblocked : ¬(!d.isOpen || d.isSubmitting) = true := by simp [ho, hs]
  have hb : blankRequired? d.form = some f :=
    (blankRequired?_eq_some_iff hd).2 ⟨List.mem_of_getElem? hp, hname, hblank⟩
  have hposition : d.form.position? f.name = some p := Form.position?_of_getElem? hd hp
  have hmarked : d.form.invalidate f.name =
      { d.form with fields := d.form.fields.set p { f with valid := false } } :=
    congrArg (Form.mk · d.form.required) (Form.modifyFirst_eq_set _ hposition hp)
  rw [submit, if_neg hunblocked, hb]
  simp only [hposition, hmarked, showInline, focusOn]

/-- The action runs exactly if the dialog is open, not submitting, and its required field is filled
in, if it has one; it then runs once, with the value of each field under its name and nothing else.
While the dialog is closed or submitting, nothing happens. If the required field is blank, it is
marked as invalid, the message says so, and the focus goes to it; all else stays. -/
theorem submission_taken_or_refused [Outcome α] (now : Nat) (toasts : Toasts) :
    (flows (d.update now .submit toasts).effects ≠ [] ↔
      d.isOpen = true ∧ d.isSubmitting = false ∧ d.form.Filled) ∧
    (d.isOpen = true → d.isSubmitting = false → d.form.Filled →
      d.update now .submit toasts =
        ⟨{ d with inline := none, isSubmitting := true }, toasts,
          [.start ((d.action d.form.payload).map .submitted)], none⟩ ∧
      d.form.payload.Perm (d.form.fields.map fun f => (f.name, f.value)) ∧
      ∀ name, d.form.payload.get? name = (d.form.field? name).map (·.value)) ∧
    (d.isOpen = false ∨ d.isSubmitting = true →
      d.update now .submit toasts = ⟨d, toasts, [], none⟩) ∧
    (d.isOpen = true → d.isSubmitting = false → ¬d.form.Filled → ∃ p f,
      d.form.fields[p]? = some f ∧ f.name = d.form.required ∧ Text.trim f.value = "" ∧
      d.update now .submit toasts =
        ⟨{ d with
            form := { d.form with fields := d.form.fields.set p { f with valid := false } }
            inline := some ⟨.error, blankField, now + inlineTimeout⟩
            focused := some p },
          toasts, [.focus (.field d.name p)], none⟩) := by
  refine ⟨?_, fun ho hs hf => ⟨?_, Form.payload_perm hd, Form.payload_get? hd⟩, fun h => ?_,
    fun ho hs hf => ?_⟩
  · rw [← accepts_iff hd, flows_update]
    show (if d.accepts = true then [d.submission] else []) ≠ [] ↔ d.accepts = true
    cases d.accepts <;> simp
  · show (⟨(d.submit now).1, toasts, (d.submit now).2, none⟩ : Step α) = _
    rw [submit_of_accepts ((accepts_iff hd).2 ⟨ho, hs, hf⟩)]
    rfl
  · have hblocked : d.isOpen = true → d.isSubmitting = true := by
      intro ho
      apply h.resolve_left
      simp [ho]
    show (⟨(d.submit now).1, toasts, (d.submit now).2, none⟩ : Step α) = _
    rw [submit_of_blocked hblocked]
  · simp only [Form.Filled, not_forall, not_not] at hf
    obtain ⟨f, hmem, hname, hblank⟩ := hf
    obtain ⟨p, hp⟩ := List.getElem?_of_mem hmem
    refine ⟨p, f, hp, hname, hblank, ?_⟩
    show (⟨(d.submit now).1, toasts, (d.submit now).2, none⟩ : Step α) = _
    rw [submit_of_blank hd ho hs hp hname hblank]

end

/-- The dialog to sign in as it is opened, and once a login is typed in. -/
def asking : Dialog Accounts.User := (Accounts.signInDialog.openWith none).1

def answered : Dialog Accounts.User :=
  (asking.update 0 (.input "login" " root ") (.empty 4000)).dialog

/-- The dialog ignores a submission while it is closed, refuses it without a login, and takes it
with one. -/
theorem submission_of_answered :
    Accounts.signInDialog.form.Distinct ∧ Accounts.signInDialog.isOpen = false ∧
    asking.form.Distinct ∧ asking.isOpen = true ∧ asking.isSubmitting = false ∧
    ¬asking.form.Filled ∧
    answered.form.Distinct ∧ answered.isOpen = true ∧ answered.isSubmitting = false ∧
    answered.form.Filled ∧
    Accounts.signInDialog.update 5 .submit (.empty 4000) =
      ⟨Accounts.signInDialog, .empty 4000, [], none⟩ ∧
    (∃ p f, asking.form.fields[p]? = some f ∧ f.name = "login" ∧
      (asking.update 5 .submit (.empty 4000)).dialog.focused = some p) ∧
    (answered.update 5 .submit (.empty 4000)).effects =
      [.start ((answered.action answered.form.payload).map .submitted)] ∧
    answered.form.payload.get? "login" = some " root " := by
  have hasking : asking.form.Distinct := by decide
  have hblank : ¬asking.form.Filled := by decide
  have hanswered : answered.form.Distinct := by decide
  have hfilled : answered.form.Filled := by decide
  have hclosed : Accounts.signInDialog.form.Distinct := by decide
  obtain ⟨-, -, hignored, -⟩ := submission_taken_or_refused hclosed 5 (.empty 4000)
  obtain ⟨-, -, -, hrefused⟩ := submission_taken_or_refused hasking 5 (.empty 4000)
  obtain ⟨-, htaken, -⟩ := submission_taken_or_refused hanswered 5 (.empty 4000)
  obtain ⟨p, f, hp, hname, -, hstep⟩ := hrefused rfl rfl hblank
  obtain ⟨hstart, -, hget⟩ := htaken rfl rfl hfilled
  refine ⟨hclosed, rfl, hasking, rfl, rfl, hblank, hanswered, rfl, rfl, hfilled,
    hignored (.inl rfl), ⟨p, f, hp, hname, ?_⟩, ?_, ?_⟩
  · rw [hstep]
  · rw [hstart]
  · rw [hget]
    decide

end TokenConsole.Dialog
