import TokenConsole.Dialog
import TokenConsole.Proofs.Flow

/-!
# Submissions of a dialog

Which messages start the action of a dialog, and what becomes of the mark that one is under way.
-/
namespace TokenConsole.Dialog

open TokenConsole.Gateway (Error Flow)

variable {α : Type}

/-- A submission would run the action. -/
def accepts (d : Dialog α) : Bool :=
  d.isOpen && !d.isSubmitting && (blankRequired? d.form).isNone

/-- The flow of an accepted submission. -/
def submission (d : Dialog α) : Flow (Message α) := (d.action d.form.payload).map .submitted

/-- A submission ends in a report, whatever becomes of it. -/
theorem ends_submission {ν : Type} (d : Dialog α) (f : Message α → ν) {P : ν → Prop}
    (h : ∀ result, P (f (.submitted result))) : (d.submission.map f).Ends P := by
  rw [submission, Flow.ends_map, Flow.ends_map]
  exact Flow.ends_of_forall h _

/-- The message starts the action. -/
def Message.submits (d : Dialog α) : Message α → Bool
  | .submit => d.accepts
  | _ => false

/-- The message reports the end of a submission. -/
def Message.isReport : Message α → Bool
  | .submitted _ => true
  | _ => false

def Message.closes : Message α → Bool
  | .close => true
  | _ => false

theorem eq_close_of_closes {m : Message α} (h : m.closes = true) : m = .close := by
  cases m with
  | close => rfl
  | _ => cases h

/-- A submission succeeds if it has a result that is not blank. -/
def succeeds [Outcome α] : Except Error α → Bool
  | .ok a => !Text.isBlank (Outcome.message a)
  | .error _ => false

/-- The outcome that a report hands on. -/
def Message.outcome [Outcome α] : Message α → Option α
  | .submitted result => (verdict result).2.2
  | _ => none

/-- Submissions are counted right if there are `n` of them: one while the dialog is submitting, and
else none. -/
def Carries (d : Dialog α) (n : Nat) : Prop := n = d.isSubmitting.toNat

theorem Carries.isSubmitting_iff {d : Dialog α} {n : Nat} (h : d.Carries n) :
    d.isSubmitting = true ↔ n = 1 := by
  rw [h]
  cases d.isSubmitting <;> simp

theorem Carries.le_one {d : Dialog α} {n : Nat} (h : d.Carries n) : n ≤ 1 :=
  h ▸ Bool.toNat_le d.isSubmitting

@[simp] theorem flows_focusOn (d : Dialog α) (p : Option Nat) : flows (d.focusOn p) = [] := by
  cases p <;> rfl

theorem eq_submit_of_submits {d : Dialog α} {m : Message α} (h : m.submits d = true) :
    m = .submit := by
  cases m with
  | submit => rfl
  | _ => cases h

theorem not_isSubmitting_of_submits {d : Dialog α} {m : Message α} (h : m.submits d = true) :
    d.isSubmitting = false := by
  obtain rfl := eq_submit_of_submits h
  simp only [Message.submits, accepts, Bool.and_eq_true, Bool.not_eq_true'] at h
  exact h.1.2

theorem verdict_isSome [Outcome α] (result : Except Error α) :
    (verdict result).2.2.isSome = succeeds result := by
  cases result with
  | error e => rfl
  | ok a =>
    by_cases hb : Text.isBlank (Outcome.message a) = true <;> simp [verdict, succeeds, hb]

/-- An outcome comes from a submission that has just succeeded. -/
theorem outcome_eq_some [Outcome α] {m : Message α} {a : α} (h : m.outcome = some a) :
    m = .submitted (.ok a) := by
  cases m with
  | submitted result =>
    cases result with
    | error e => cases h
    | ok b =>
      by_cases hb : Text.isBlank (Outcome.message b) = true
      · simp [Message.outcome, verdict, hb] at h
      · have hab : b = a := by simpa [Message.outcome, verdict, hb] using h
        rw [hab]
  | _ => cases h

theorem outcome_of_not_isReport [Outcome α] {m : Message α} (h : m.isReport = false) :
    m.outcome = none := by
  cases m with
  | submitted result => cases h
  | _ => rfl

/-- While the dialog is closed or already submitting, a submission is ignored. -/
theorem submit_of_blocked {d : Dialog α} (h : d.isOpen = true → d.isSubmitting = true) (now : Nat) :
    d.submit now = (d, []) := by
  have hblocked : (!d.isOpen || d.isSubmitting) = true := by
    cases ho : d.isOpen with
    | false => rfl
    | true => exact h ho
  rw [submit, if_pos hblocked]

theorem submit_of_accepts {d : Dialog α} (h : d.accepts = true) (now : Nat) :
    d.submit now = ({ d with inline := none, isSubmitting := true }, [.start d.submission]) := by
  simp only [accepts, Bool.and_eq_true, Bool.not_eq_true', Option.isNone_iff_eq_none] at h
  simp [submit, h, submission]

theorem not_submits_of_isReport {d : Dialog α} {m : Message α} (h : m.isReport = true) :
    m.submits d = false := by
  cases m with
  | submitted result => rfl
  | _ => cases h

/-- A submission that is not accepted starts nothing. -/
theorem submit_of_not_accepts {d : Dialog α} (h : d.accepts = false) (now : Nat) :
    (d.submit now).1.isSubmitting = d.isSubmitting ∧ (d.submit now).1.action = d.action ∧
      flows (d.submit now).2 = [] := by
  unfold submit
  split
  · exact ⟨rfl, rfl, rfl⟩
  · next hg =>
    split
    · exact ⟨rfl, rfl, flows_focusOn _ _⟩
    · next hb => simp_all [accepts]

@[simp] theorem flows_openWith (d : Dialog α) (restore : Option Input) :
    flows (d.openWith restore).2 = [] := flows_focusOn _ _

@[simp] theorem close_isSubmitting (d : Dialog α) : d.close.1.isSubmitting = d.isSubmitting := rfl

@[simp] theorem flows_close (d : Dialog α) : flows d.close.2 = [] := by
  unfold close
  cases d.restore <;> rfl

/-- Moving the focus moves nothing else. -/
theorem moveFocus_cases (forward : Bool) (d : Dialog α) :
    ∃ next, (d.moveFocus forward).1 = { d with focused := next } ∧
      flows (d.moveFocus forward).2 = [] := by
  simp only [moveFocus]
  split
  · exact ⟨d.focused, rfl, rfl⟩
  · exact ⟨_, rfl, flows_focusOn _ _⟩

@[simp] theorem moveFocus_isSubmitting (forward : Bool) (d : Dialog α) :
    (d.moveFocus forward).1.isSubmitting = d.isSubmitting := by
  obtain ⟨next, hd, -⟩ := d.moveFocus_cases forward
  rw [hd]

@[simp] theorem flows_moveFocus (forward : Bool) (d : Dialog α) :
    flows (d.moveFocus forward).2 = [] := by
  obtain ⟨next, -, he⟩ := d.moveFocus_cases forward
  exact he

variable [Outcome α] (now : Nat) (m : Message α) (d : Dialog α) (toasts : Toasts)

/-- The action runs for an accepted submission and for nothing else. -/
theorem flows_update : flows (d.update now m toasts).effects =
    if m.submits d then [d.submission] else [] := by
  cases m with
  | submit =>
    simp only [update, Message.submits]
    by_cases ha : d.accepts = true
    · simp [submit_of_accepts ha, ha]
    · simp [submit_of_not_accepts (by simpa using ha), ha]
  | select field choice =>
    simp only [update, Message.submits]
    split <;> simp
  | tick t =>
    simp only [update, Message.submits]
    split <;> simp
  | _ => simp [update, Message.submits]

theorem update_isSubmitting : (d.update now m toasts).dialog.isSubmitting =
    if m.isReport then false else d.isSubmitting || m.submits d := by
  cases m with
  | submit =>
    simp only [update, Message.submits, Message.isReport]
    by_cases ha : d.accepts = true
    · simp [submit_of_accepts ha, ha]
    · simp [submit_of_not_accepts (by simpa using ha), ha]
  | select field choice =>
    simp only [update, Message.submits, Message.isReport]
    split <;> simp
  | tick t =>
    simp only [update, Message.submits, Message.isReport]
    split
    · split <;> simp [hideInline]
    · simp
  | _ => simp [update, Message.submits, Message.isReport, showInline]

variable {m} in
/-- A message that does not close the dialog changes its form, its focus and its marks only. -/
theorem update_of_not_closes (hm : m.closes = false) : ∃ form focused inline isSubmitting,
    (d.update now m toasts).dialog = { d with form, focused, inline, isSubmitting } := by
  cases m with
  | close => cases hm
  | select field choice =>
    simp only [update]
    split <;> exact ⟨_, _, _, _, rfl⟩
  | submit =>
    simp only [update, submit]
    split
    · exact ⟨_, _, _, _, rfl⟩
    · split <;> exact ⟨_, _, _, _, rfl⟩
  | focusNext =>
    obtain ⟨next, hd, -⟩ := d.moveFocus_cases true
    exact ⟨d.form, next, d.inline, d.isSubmitting, hd⟩
  | focusPrevious =>
    obtain ⟨next, hd, -⟩ := d.moveFocus_cases false
    exact ⟨d.form, next, d.inline, d.isSubmitting, hd⟩
  | tick t =>
    simp only [update]
    split
    · split <;> exact ⟨_, _, _, _, rfl⟩
    · exact ⟨_, _, _, _, rfl⟩
  | _ => exact ⟨_, _, _, _, rfl⟩

/-- The action of a dialog never changes. -/
theorem update_action : (d.update now m toasts).dialog.action = d.action := by
  cases hm : m.closes with
  | true =>
    obtain rfl := eq_close_of_closes hm
    rfl
  | false =>
    obtain ⟨form, focused, inline, isSubmitting, hd⟩ := d.update_of_not_closes now toasts hm
    rw [hd]

/-- The toasts around a dialog mean nothing to it. -/
theorem update_dialog_eq (a b : Toasts) :
    (d.update now m a).dialog = (d.update now m b).dialog := by
  cases m with
  | select field choice =>
    simp only [update]
    split <;> rfl
  | tick t =>
    simp only [update]
    split <;> rfl
  | _ => rfl

/-- A report of success has an outcome and nothing else has. -/
theorem update_outcome : (d.update now m toasts).outcome = m.outcome := by
  cases m with
  | select field choice =>
    simp only [update]
    split <;> rfl
  | tick t =>
    simp only [update]
    split <;> rfl
  | _ => rfl

/-- A report that was not waited for and shows what is shown already. -/
def Settled (result : Except Error α) : Prop :=
  d.isSubmitting = false ∧
    d.inline = some ⟨(verdict result).1, (verdict result).2.1, now + inlineTimeout⟩

theorem submitted_eq_self_iff (result : Except Error α) :
    (d.update now (.submitted result) toasts).dialog = d ↔ d.Settled now result := by
  constructor
  · intro he
    exact ⟨(congrArg Dialog.isSubmitting he).symm, (congrArg Dialog.inline he).symm⟩
  · rintro ⟨hs, hi⟩
    change { d with
      isSubmitting := false
      inline := some ⟨(verdict result).1, (verdict result).2.1, now + inlineTimeout⟩ } = d
    rw [← hs, ← hi]

variable {m d} {n : Nat}

/-- A message from outside adds the submission that it starts. -/
theorem Carries.message (h : d.Carries n) (hm : m.isReport = false) :
    (d.update now m toasts).dialog.Carries (n + (m.submits d).toNat) := by
  unfold Carries at h ⊢
  rw [update_isSubmitting, hm, h]
  cases hs : m.submits d with
  | false => simp
  | true => simp [not_isSubmitting_of_submits hs]

/-- A report takes its submission away. -/
theorem Carries.report (h : d.Carries (n + 1)) (hm : m.isReport = true) :
    (d.update now m toasts).dialog.Carries n := by
  unfold Carries at h ⊢
  rw [update_isSubmitting, hm]
  have := Bool.toNat_le d.isSubmitting
  simp
  omega

end TokenConsole.Dialog
