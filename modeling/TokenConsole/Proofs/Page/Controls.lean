import TokenConsole.Proofs.Dialog.View
import TokenConsole.Proofs.Grid.View

/-!
# The controls of a page

Whether a control is disabled is settled twice: where it is drawn, and where its message is handled.
Both agree in every state. The rows that are drawn are those of the shown page, with their whole ids
in their buttons, and the inputs of a dialog are those that the focus moves through.
-/
namespace TokenConsole

open TokenConsole.Calendar (Zone)
open TokenConsole.Screen (Button Node offer offer_congr offer_eq)

variable {μ : Type} (now : Nat) (toasts : Toasts)

namespace LoginPage

variable (p : LoginPage) (lift : Message → μ)

/-- A page ignores a message that changes nothing, asks for nothing and signs nobody in. -/
def Ignores (m : Message) : Prop := p.update now m toasts = ⟨p, toasts, [], none⟩

theorem ignores_signIn_submit_iff :
    p.Ignores now toasts (.signIn .submit) ↔ p.signIn.Ignores now toasts .submit := by
  obtain ⟨signIn, signUp⟩ := p
  simp [Ignores, Dialog.Ignores, update, Dialog.update]

theorem ignores_signUp_submit_iff :
    p.Ignores now toasts (.signUp .submit) ↔ p.signUp.Ignores now toasts .submit := by
  obtain ⟨signIn, signUp⟩ := p
  simp [Ignores, Dialog.Ignores, update, Dialog.update]

/-- The buttons that open the dialogs. -/
def cardControls : List (Button μ) :=
  [⟨.primary, .bodyMedium "Sign in", some (lift .openSignIn)⟩,
    ⟨.secondary, .body "Sign up", some (lift .openSignUp)⟩]

/-- The page as it is drawn agrees with what it does. -/
structure ControlsAgree : Prop where
  /-- The buttons in their order. -/
  buttons : (p.view lift).buttons = cardControls lift ++
    p.signIn.controls (fun m => lift (.signIn m))
      (offer (p.Ignores now toasts) lift (.signIn .submit)) ++
    p.signUp.controls (fun m => lift (.signUp m))
      (offer (p.Ignores now toasts) lift (.signUp .submit))
  inputs : (p.view lift).inputs.map (·.input) = p.signIn.ring ++ p.signUp.ring

theorem controlsAgree : p.ControlsAgree now toasts lift := by
  constructor
  · rw [view, Dialog.buttons_drawOver _ _ now toasts, Dialog.buttons_drawOver _ _ now toasts,
      offer_congr (p.ignores_signIn_submit_iff now toasts),
      offer_congr (p.ignores_signUp_submit_iff now toasts)]
    rfl
  · rw [view, Dialog.inputs_drawOver, Dialog.inputs_drawOver]
    rfl

end LoginPage

namespace AdminPage

variable [Zone] (p : AdminPage) (lift : Message → μ)

/-- A page ignores a message that changes nothing and asks for nothing. -/
def Ignores (m : Message) : Prop := p.update now m toasts = ⟨p, toasts, []⟩

theorem ignores_tokenize_submit_iff :
    p.Ignores now toasts (.tokenize .submit) ↔ p.tokenize.Ignores now toasts .submit := by
  obtain ⟨tokenize, detokenize, grid⟩ := p
  simp [Ignores, Dialog.Ignores, update, Dialog.update]

theorem ignores_detokenize_submit_iff :
    p.Ignores now toasts (.detokenize .submit) ↔ p.detokenize.Ignores now toasts .submit := by
  obtain ⟨tokenize, detokenize, grid⟩ := p
  simp [Ignores, Dialog.Ignores, update, Dialog.update]

theorem ignores_grid_iff (m : Grid.Message) :
    p.Ignores now toasts (.grid m) ↔ p.grid.Ignores now toasts m := by
  obtain ⟨tokenize, detokenize, grid⟩ := p
  cases hs : grid.update now m toasts
  simp [Ignores, Grid.Ignores, update, hs]

/-- The buttons over the grid. -/
def barControls : List (Button μ) :=
  [⟨.primary, .bodyMedium "Tokenize", some (lift .openTokenize)⟩,
    ⟨.secondary, .body "Detokenize", some (lift .openDetokenize)⟩,
    ⟨.transparent, .body "Logout", some (lift .logout)⟩]

/-- The page as it is drawn agrees with what it does. -/
structure ControlsAgree : Prop where
  /-- The buttons in their order. -/
  buttons : (p.view lift).buttons = barControls lift ++
    p.grid.controls (fun m => lift (.grid m))
      (fun m => offer (p.Ignores now toasts) lift (.grid m)) ++
    (p.grid.confirming.toList.flatMap fun _ => Grid.questionControls fun m => lift (.grid m)) ++
    p.tokenize.controls (fun m => lift (.tokenize m))
      (offer (p.Ignores now toasts) lift (.tokenize .submit)) ++
    p.detokenize.controls (fun m => lift (.detokenize m))
      (offer (p.Ignores now toasts) lift (.detokenize .submit))
  /-- The buttons of the rows, while they are not covered by the question. -/
  delete : p.grid.confirming = none → ∀ id, p.grid.deletePress (fun m => lift (.grid m)) id =
    offer (p.Ignores now toasts) lift (.grid (.requestDelete id))
  rows : (p.view lift).tableRows = p.grid.visible.map (p.grid.rowCells fun m => lift (.grid m))
  inputs : (p.view lift).inputs.map (·.input) = .filter :: p.tokenize.ring ++ p.detokenize.ring

theorem controlsAgree : p.ControlsAgree now toasts lift where
  buttons := by
    rw [view, Dialog.buttons_drawOver _ _ now toasts, Dialog.buttons_drawOver _ _ now toasts,
      offer_congr (p.ignores_tokenize_submit_iff now toasts),
      offer_congr (p.ignores_detokenize_submit_iff now toasts)]
    simp only [offer_congr (p.ignores_grid_iff now toasts _)]
    have hgrid := p.grid.buttons_view (fun m => lift (.grid m)) now toasts
    simp only [Node.buttons] at hgrid ⊢
    simp [Node.collect, Node.button?, hgrid, barControls]
  delete hc id := by
    rw [offer_eq ((p.ignores_grid_iff now toasts _).trans
      (Grid.ignores_requestDelete_iff now toasts hc id))]
    rfl
  rows := by
    rw [view, Dialog.tableRows_drawOver, Dialog.tableRows_drawOver, ← Grid.tableRows_view]
    simp [Node.tableRows, Node.collect, Node.tableRow?]
  inputs := by
    have hgrid := p.grid.inputs_view fun m => lift (.grid m)
    rw [view, Dialog.inputs_drawOver, Dialog.inputs_drawOver]
    rw [Node.inputs_eq] at hgrid ⊢
    simp [Node.collect, Node.input?, hgrid]

end AdminPage

/-- The controls of both pages agree with what the pages do, in every state. -/
theorem drawn_controls_agree [Zone] :
    (∀ (p : LoginPage) (lift : LoginPage.Message → μ), p.ControlsAgree now toasts lift) ∧
      ∀ (p : AdminPage) (lift : AdminPage.Message → μ), p.ControlsAgree now toasts lift :=
  ⟨fun p lift => p.controlsAgree now toasts lift, fun p lift => p.controlsAgree now toasts lift⟩

end TokenConsole
