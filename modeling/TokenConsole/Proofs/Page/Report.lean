import TokenConsole.Proofs.Grid.Paging
import TokenConsole.Proofs.Page.Admin
import TokenConsole.Proofs.Page.Login

/-!
# Reports that change nothing

A report leaves a page as it is only if the page did not wait for it and shows its contents already.
-/
namespace TokenConsole

open TokenConsole.Calendar (Zone)
open TokenConsole.Gateway (Error)

namespace LoginPage

/-- The page has nothing to learn from a report. -/
def Settled (now : Nat) (p : LoginPage) : Message → Prop
  | .signIn (.submitted result) => p.signIn.Settled now result
  | .signUp (.submitted result) => p.signUp.Settled now result
  | _ => False

theorem report_eq_self_iff {m : Message} {j : Job} (hm : m.job? = some j) (p : LoginPage)
    (now : Nat) (toasts : Toasts) : (p.update now m toasts).page = p ↔ p.Settled now m := by
  cases m with
  | signIn m =>
    cases m with
    | submitted result =>
      rw [Settled, ← p.signIn.submitted_eq_self_iff now toasts]
      exact ⟨congrArg signIn, fun he => congrArg (fun d => { p with signIn := d }) he⟩
    | _ => cases hm
  | signUp m =>
    cases m with
    | submitted result =>
      rw [Settled, ← p.signUp.submitted_eq_self_iff now toasts]
      exact ⟨congrArg signUp, fun he => congrArg (fun d => { p with signUp := d }) he⟩
    | _ => cases hm
  | _ => cases hm

end LoginPage

namespace AdminPage

/-- The page has nothing to learn from a report. -/
def Settled (now : Nat) (p : AdminPage) : Message → Prop
  | .tokenize (.submitted result) =>
    p.tokenize.Settled now result ∧ Dialog.succeeds result = false
  | .detokenize (.submitted result) => p.detokenize.Settled now result
  | .grid m => p.grid.Settled m
  | _ => False

theorem paged_update [Zone] {p : AdminPage} (h : p.grid.Paged) (now : Nat) (m : Message)
    (toasts : Toasts) : (p.update now m toasts).page.grid.Paged := by
  cases m with
  | tokenize m =>
    rw [update_tokenize]
    dsimp only
    split
    · exact h
    · exact h
  | grid m => exact h.update now m toasts
  | _ => exact h

theorem report_eq_self_iff [Zone] {m : Message} {j : Job} (hm : m.job? = some j) {p : AdminPage}
    (hp : p.grid.Paged) (now : Nat) (toasts : Toasts) :
    (p.update now m toasts).page = p ↔ p.Settled now m := by
  cases m with
  | tokenize m =>
    cases m with
    | submitted result =>
      rw [Settled, ← p.tokenize.submitted_eq_self_iff now toasts, update_tokenize]
      have hsome : (Dialog.Message.submitted result).outcome.isSome = Dialog.succeeds result :=
        Dialog.verdict_isSome result
      rw [hsome]
      cases hs : Dialog.succeeds result with
      | false => exact ⟨fun he => ⟨congrArg tokenize he, rfl⟩,
          fun he => congrArg (fun d => { p with tokenize := d }) he.1⟩
      | true =>
        refine ⟨fun he => ?_, fun he => by cases he.2⟩
        have hloads : p.grid.pendingLoads + 1 = p.grid.pendingLoads :=
          congrArg (fun q => q.grid.pendingLoads) he
        omega
    | _ => cases hm
  | detokenize m =>
    cases m with
    | submitted result =>
      rw [Settled, ← p.detokenize.submitted_eq_self_iff now toasts]
      exact ⟨congrArg detokenize, fun he => congrArg (fun d => { p with detokenize := d }) he⟩
    | _ => cases hm
  | grid m =>
    have hgrid : (p.update now (.grid m) toasts).page = p ↔
        (p.grid.update now m toasts).grid = p.grid :=
      ⟨congrArg grid, fun he => congrArg (fun g => { p with grid := g }) he⟩
    rw [hgrid]
    cases m with
    | refreshed result =>
      refine Iff.trans ?_ (Grid.showLoaded_eq_self_iff hp result)
      cases result <;> rfl
    | deleted id result =>
      refine Iff.trans ?_ (Grid.settleDeletion_eq_self_iff hp id result)
      cases result <;> rfl
    | _ => cases hm
  | _ => cases hm

end AdminPage

end TokenConsole
