import Mathlib.Data.List.Induction
import TokenConsole.Accounts
import TokenConsole.Proofs.Dialog.Entry
import TokenConsole.Proofs.Form.Ring

/-!
# A dialog that is opened again

To open a dialog is to take it as it was made: whatever was done to it before leaves no trace but
the mark that a submission is under way. The first close after that gives the focus back to the
input that the dialog was opened with, and no later one does.
-/
namespace TokenConsole.Dialog

open TokenConsole.Gateway (Error Flow)

variable {α : Type}

/-- What is done to a dialog: it is opened, it is closed from outside, or it gets a message. -/
inductive Act (α : Type) where
  | opened (restore : Option Input)
  | closed
  | message (now : Nat) (m : Message α) (toasts : Toasts)

namespace Act

def opens : Act α → Bool
  | .opened _ => true
  | .closed | .message .. => false

def closes : Act α → Bool
  | .opened _ => false
  | .closed => true
  | .message _ m _ => m.closes

/-- The dialog and the effects that follow. -/
def onDialog [Outcome α] : Act α → Dialog α → Dialog α × List (Effect (Message α))
  | .opened restore, d => d.openWith restore
  | .closed, d => d.close
  | .message now m toasts, d => ((d.update now m toasts).dialog, (d.update now m toasts).effects)

end Act

/-- The dialog after a history. -/
def after [Outcome α] (d : Dialog α) (h : List (Act α)) : Dialog α :=
  h.foldl (fun d a => (a.onDialog d).1) d

/-! ### What stays the same -/

/-- The dialog as it was before it was ever opened, with a form of its own. -/
def unusedWith (form : Form) (d : Dialog α) : Dialog α :=
  { d with form, isOpen := false, isSubmitting := false, inline := none, focused := none,
           restore := none }

/-- The dialog as it was made. -/
def asMade (d : Dialog α) : Dialog α := d.unusedWith d.form.reset

/-- Opening a dialog keeps nothing but what it was made of and the mark of a submission. -/
theorem openWith_eq (restore : Option Input) (d : Dialog α) : d.openWith restore =
    ({ d.asMade with
        isOpen := true, isSubmitting := d.isSubmitting, restore,
        focused := d.asMade.form.focusRing.head? },
      d.asMade.focusOn d.asMade.form.focusRing.head?) := rfl

section

variable [Outcome α] (now : Nat) (m : Message α) (d : Dialog α) (toasts : Toasts)

theorem update_asMade : (d.update now m toasts).dialog.asMade = d.asMade := by
  have hform : (d.update now m toasts).dialog.form.reset = d.form.reset :=
    Form.reset_of_lasting (d.update_lasting now m toasts)
  rw [asMade, hform, asMade]
  cases hm : m.closes with
  | true =>
    obtain rfl := eq_close_of_closes hm
    rfl
  | false =>
    obtain ⟨form, focused, inline, isSubmitting, hd⟩ := d.update_of_not_closes now toasts hm
    rw [hd]
    rfl

end

section

variable [Outcome α] (d : Dialog α)

theorem onDialog_lasting (a : Act α) : (a.onDialog d).1.form.lasting = d.form.lasting := by
  cases a with
  | opened restore => exact d.form.lasting_reset
  | closed => rfl
  | message now m toasts => exact d.update_lasting now m toasts

theorem after_lasting (h : List (Act α)) : (d.after h).form.lasting = d.form.lasting := by
  induction h generalizing d with
  | nil => rfl
  | cons a h ih => exact (ih (a.onDialog d).1).trans (d.onDialog_lasting a)

theorem onDialog_asMade (a : Act α) : (a.onDialog d).1.asMade = d.asMade := by
  cases a with
  | opened restore =>
    show d.unusedWith d.form.reset.reset = d.unusedWith d.form.reset
    rw [Form.reset_of_lasting d.form.lasting_reset]
  | closed => rfl
  | message now m toasts => exact d.update_asMade now m toasts

theorem after_asMade (h : List (Act α)) : (d.after h).asMade = d.asMade := by
  induction h generalizing d with
  | nil => rfl
  | cons a h ih => exact (ih (a.onDialog d).1).trans (d.onDialog_asMade a)

theorem after_append (h h' : List (Act α)) : d.after (h ++ h') = (d.after h).after h' :=
  List.foldl_append

/-- Each act of a history has a property of what it is done to. -/
def Throughout (P : Dialog α → Act α → Prop) : Dialog α → List (Act α) → Prop
  | _, [] => True
  | d, a :: h => P d a ∧ Throughout P (a.onDialog d).1 h

theorem throughout_append (P : Dialog α → Act α → Prop) {d : Dialog α} {h h' : List (Act α)} :
    Throughout P d (h ++ h') ↔ Throughout P d h ∧ Throughout P (d.after h) h' := by
  induction h generalizing d with
  | nil => exact (true_and _).symm.to_iff
  | cons a h ih =>
    show _ ∧ Throughout P _ (h ++ h') ↔ (_ ∧ _) ∧ _
    rw [ih, and_assoc]
    rfl

/-! ### Where the focus goes back to -/

variable {d} {a : Act α}

/-- What a dialog is to give the focus back to is forgotten with the first close. -/
theorem onDialog_restore (ha : a.opens = false) :
    (a.onDialog d).1.restore = if a.closes then none else d.restore := by
  cases a with
  | opened restore => cases ha
  | closed => rfl
  | message now m toasts =>
    show (d.update now m toasts).dialog.restore = if m.closes then none else d.restore
    cases hm : m.closes with
    | true =>
      obtain rfl := eq_close_of_closes hm
      rfl
    | false =>
      obtain ⟨form, focused, inline, isSubmitting, hd⟩ := d.update_of_not_closes now toasts hm
      rw [hd]
      rfl

theorem after_restore {h : List (Act α)} (hopens : ∀ a ∈ h, a.opens = false) :
    (d.after h).restore = if h.any Act.closes then none else d.restore := by
  induction h generalizing d with
  | nil => rfl
  | cons a h ih =>
    have hrest := ih (d := (a.onDialog d).1) fun b hb => hopens b (List.mem_cons_of_mem a hb)
    show ((a.onDialog d).1.after h).restore = _
    rw [hrest, onDialog_restore (hopens a List.mem_cons_self), List.any_cons]
    cases a.closes <;> simp

theorem effects_of_closes (ha : a.closes = true) :
    (a.onDialog d).2 = (d.restore.map Effect.focus).toList := by
  have hclose : d.close.2 = (d.restore.map Effect.focus).toList := by
    unfold close
    cases d.restore <;> rfl
  cases a with
  | opened restore => cases ha
  | closed => exact hclose
  | message now m toasts =>
    cases m with
    | close => exact hclose
    | _ => cases ha

end

/-! ### Every history -/

/-- A dialog over fields, as it is made. -/
def ofFields (name title submitLabel : String) (fields : List Field) (required : String)
    (action : Payload → Flow (Except Error α)) : Dialog α :=
  ofForm name title submitLabel (.ofFields fields required) action

section

variable (name title submitLabel : String) (fields : List Field) (required : String)
  (action : Payload → Flow (Except Error α))

theorem asMade_ofFields : (ofFields name title submitLabel fields required action).asMade =
    ofFields name title submitLabel fields required action :=
  congrArg (unusedWith · (ofFields name title submitLabel fields required action))
    (Form.reset_ofFields fields required)

variable [Outcome α]

theorem openWith_after (h : List (Act α)) (restore : Option Input) :
    ((ofFields name title submitLabel fields required action).after h).openWith restore =
      ({ ofFields name title submitLabel fields required action with
          isOpen := true, restore, focused := (Form.ofFields fields required).focusRing.head?,
          isSubmitting :=
            ((ofFields name title submitLabel fields required action).after h).isSubmitting },
        (ofFields name title submitLabel fields required action).focusOn
          (Form.ofFields fields required).focusRing.head?) := by
  rw [openWith_eq, after_asMade, asMade_ofFields]
  rfl

/-- A dialog that is opened is the dialog as it was made, open, with the focus on its first input;
only the mark of a submission is left of its past. So two histories cannot be told apart by it. The
first close after that, and no later one, asks for the focus to go back to where it was. -/
theorem reopening_forgets (restore : Option Input) :
    let made := ofFields name title submitLabel fields required action
    let first := made.form.focusRing.head?
    (∀ h, (made.after h).openWith restore =
      ({ made with
          isOpen := true, isSubmitting := (made.after h).isSubmitting, restore, focused := first },
        made.focusOn first)) ∧
    (∀ h₁ h₂,
      { ((made.after h₁).openWith restore).1 with isSubmitting := false } =
        { ((made.after h₂).openWith restore).1 with isSubmitting := false } ∧
      ((made.after h₁).openWith restore).2 = ((made.after h₂).openWith restore).2) ∧
    ∀ (h since : List (Act α)) (a : Act α), (∀ b ∈ since, b.opens = false) → a.closes = true →
      (a.onDialog (made.after (h ++ .opened restore :: since))).2 =
        if since.any Act.closes then [] else (restore.map Effect.focus).toList := by
  intro made first
  have hopen : ∀ h, (made.after h).openWith restore =
      ({ made with
          isOpen := true, isSubmitting := (made.after h).isSubmitting, restore, focused := first },
        made.focusOn first) :=
    fun h => openWith_after name title submitLabel fields required action h restore
  refine ⟨hopen, fun h₁ h₂ => ?_, fun h since a hsince ha => ?_⟩
  · rw [hopen h₁, hopen h₂]
    exact ⟨rfl, rfl⟩
  · rw [effects_of_closes ha, after_append]
    show (((((made.after h).openWith restore).1.after since).restore.map Effect.focus).toList) = _
    rw [after_restore hsince]
    cases since.any Act.closes with
    | true => rfl
    | false => rfl

end

/-- A password is typed in, the submission without a login is refused, and the dialog is closed. -/
def typing : List (Act Accounts.User) :=
  [.opened none, .message 0 (.input "password" "passw0rd") (.empty 4000),
    .message 0 .submit (.empty 4000), .message 0 .close (.empty 4000)]

theorem reopening_forgets_typing :
    let made := ofFields "sign_in" "Sign in" "Sign in" [Accounts.loginField, Accounts.passwordField]
      "login" Accounts.signIn
    let tab : Act Accounts.User := .message 1 .focusNext (.empty 4000)
    let escape : Act Accounts.User := .message 2 .close (.empty 4000)
    tab.opens = false ∧ escape.opens = false ∧ escape.closes = true ∧
      (made.after typing).form.value? "password" = some "passw0rd" ∧
      ((made.after typing).openWith (some .filter)).1 = (made.openWith (some .filter)).1 ∧
      (escape.onDialog (made.after (typing ++ [.opened (some .filter), tab]))).2 =
        [.focus .filter] ∧
      (escape.onDialog (made.after (typing ++ [.opened (some .filter), tab, escape, tab]))).2 =
        [] := by
  intro made tab escape
  obtain ⟨hopen, -, hclose⟩ := reopening_forgets "sign_in" "Sign in" "Sign in"
    [Accounts.loginField, Accounts.passwordField] "login" Accounts.signIn (some .filter)
  refine ⟨rfl, rfl, rfl, by decide, ?_, ?_, ?_⟩
  · exact (congrArg Prod.fst (hopen typing)).trans (congrArg Prod.fst (hopen [])).symm
  · exact hclose typing [tab] escape (by decide) rfl
  · exact hclose typing [tab, escape, tab] escape (by decide) rfl

end TokenConsole.Dialog
