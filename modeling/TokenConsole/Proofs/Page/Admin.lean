import TokenConsole.Page.Admin
import TokenConsole.Proofs.Dialog.Submission
import TokenConsole.Proofs.Grid.Work
import TokenConsole.Proofs.Machine.Tasks

/-!
# The admin page at work

The page with the loads and deletions of its grid and the submissions of its dialogs. Grid and
dialogs keep their own accounts. They meet in one place: the report of a new token also starts a
load.
-/
namespace TokenConsole.AdminPage

open TokenConsole.Calendar (Zone)
open TokenConsole.Gateway (Flow)

/-- The job whose end a message reports. -/
def Message.job? : Message → Option Job
  | .tokenize m => if m.isReport then some .tokenize else none
  | .detokenize m => if m.isReport then some .detokenize else none
  | .grid m => m.job?
  | _ => none

theorem Message.job?_ne_signIn (m : Message) : m.job? ≠ some .signIn := by
  cases m with
  | tokenize m => cases hr : m.isReport <;> simp [job?, hr]
  | detokenize m => cases hr : m.isReport <;> simp [job?, hr]
  | grid m =>
    intro hj
    rcases Grid.Message.job?_cases hj with he | ⟨id, he⟩ <;> cases he
  | _ => simp [job?]

/-- The page, with the time and the toasts around it. -/
def machine [Zone] : Machine (Nat × Toasts) AdminPage Message where
  update env m p := let s := p.update env.1 m env.2; (s.page, s.effects)
  session _ := 1
  turns _ _ _ := false
  job? := Message.job?

def start [Zone] : Runtime AdminPage Message := machine.begin fresh.1 fresh.2

/-- The jobs that a message starts. -/
def starts (p : AdminPage) : Message → List Job
  | .tokenize m =>
    (if m.submits p.tokenize then [.tokenize] else []) ++ if m.outcome.isSome then [.load] else []
  | .detokenize m => if m.submits p.detokenize then [.detokenize] else []
  | .grid m => (p.grid.starts m).toList
  | _ => []

/-- The flow of a job of the page. -/
def flowOf (p : AdminPage) : Job → Flow Message
  | .tokenize => p.tokenize.submission.map .tokenize
  | .detokenize => p.detokenize.submission.map .detokenize
  | j => (Grid.flowOf j).map .grid

/-- The flows that serve a job. -/
def Serves : Job → Flow Message → Prop
  | .load, f => f = Grid.loading.map .grid
  | .deletion id, f => f = (Grid.deletion id).map .grid
  | .tokenize, f => ∃ p, f = ((Tokens.tokenize p).map .submitted).map .tokenize
  | .detokenize, f => ∃ p, f = ((Tokens.detokenize p).map .submitted).map .detokenize
  | _, _ => False

theorem brief_detokenize (p : Payload) : (Tokens.detokenize p).Brief := by
  by_cases h : Text.trim ((p.get? "token").getD "") = ""
  · simp only [Tokens.detokenize, h, if_true]
    exact .done _
  · simp only [Tokens.detokenize, h, if_false]
    exact Flow.brief_ask _

theorem brief_of_serves {j : Job} {f : Flow Message} (h : Serves j f) : f.Brief := by
  cases j with
  | load =>
    rw [h]
    exact ((Flow.brief_ask _).map _).map _
  | deletion id =>
    rw [h]
    exact ((Flow.brief_ask _).map _).map _
  | tokenize =>
    obtain ⟨p, rfl⟩ := h
    exact ((Flow.brief_ask _).map _).map _
  | detokenize =>
    obtain ⟨p, hp⟩ := h
    rw [hp]
    exact ((brief_detokenize p).map _).map _
  | _ => cases h

/-- The dialogs run the actions that they are there for. -/
structure Equipped (p : AdminPage) : Prop where
  tokenize : p.tokenize.action = Tokens.tokenize
  detokenize : p.detokenize.action = Tokens.detokenize

structure Balanced (p : AdminPage) (js : List (Option Job)) : Prop where
  grid : p.grid.Balanced js
  tokenize : p.tokenize.Carries (js.count (some .tokenize))
  detokenize : p.detokenize.Carries (js.count (some .detokenize))

section

variable [Zone] (now : Nat) (toasts : Toasts) (p : AdminPage)

/-- A new token makes the grid load. -/
theorem update_tokenize (m : Dialog.Message String) :
    (p.update now (.tokenize m) toasts).page =
      { p with
        tokenize := (p.tokenize.update now m toasts).dialog
        grid := if m.outcome.isSome then p.grid.load.1 else p.grid } := by
  simp only [update, Dialog.update_outcome]
  cases m.outcome <;> rfl

/-- A message starts the flows of its jobs and nothing else. -/
theorem flows_update (m : Message) :
    flows (p.update now m toasts).effects = (p.starts m).map p.flowOf := by
  cases m with
  | openTokenize => simp [update, starts]
  | openDetokenize => simp [update, starts]
  | tokenize m =>
    have hown : flows ((p.tokenize.update now m toasts).effects.map (·.map Message.tokenize)) =
        if m.submits p.tokenize then [p.tokenize.submission.map .tokenize] else [] := by
      rw [flows_map, Dialog.flows_update]
      split <;> rfl
    simp only [update, Dialog.update_outcome, starts, List.map_append]
    cases ho : m.outcome with
    | none => by_cases h : m.submits p.tokenize = true <;> simp [hown, flowOf, h]
    | some a =>
      by_cases h : m.submits p.tokenize = true <;>
        simp [hown, Grid.flows_update, Grid.starts, Grid.flowOf, flowOf, h]
  | detokenize m =>
    by_cases h : m.submits p.detokenize = true <;>
      simp [update, Dialog.flows_update, starts, flowOf, h]
  | grid m =>
    simp only [update, flows_map, Grid.flows_update, starts]
    cases hs : p.grid.starts m with
    | none => rfl
    | some j => rcases Grid.starts_cases hs with rfl | ⟨id, rfl⟩ <;> rfl
  | logout => rfl

end

/-- A job of the page is a submission of one of its dialogs, or work of the grid. -/
theorem starts_cases {p : AdminPage} {m : Message} {j : Job} (h : j ∈ p.starts m) :
    j = .tokenize ∨ j = .detokenize ∨ j = .load ∨ ∃ id, j = .deletion id := by
  cases m with
  | tokenize m =>
    rcases List.mem_append.1 h with h | h
    · have hj : m.submits p.tokenize = true ∧ j = .tokenize := by simpa using h
      exact .inl hj.2
    · have hj : m.outcome.isSome = true ∧ j = .load := by simpa using h
      exact .inr (.inr (.inl hj.2))
  | detokenize m =>
    have hj : m.submits p.detokenize = true ∧ j = .detokenize := by simpa [starts] using h
    exact .inr (.inl hj.2)
  | grid m => exact .inr (.inr (Grid.starts_cases (Option.mem_toList.1 h)))
  | _ => cases h

/-- The page starts no work of the login page. -/
theorem signIn_not_mem_starts (p : AdminPage) (m : Message) : Job.signIn ∉ p.starts m := by
  intro h
  rcases starts_cases h with he | he | he | ⟨id, he⟩ <;> cases he

theorem reports_load [Zone] : machine.Reports .load (Grid.loading.map .grid) := fun _ => rfl

theorem plans [Zone] : machine.Plans starts flowOf where
  flows_eq env m p := p.flows_update env.1 env.2 m
  reports p m j hj := by
    rcases starts_cases hj with rfl | rfl | rfl | ⟨id, rfl⟩
    · exact p.tokenize.ends_submission _ fun _ => rfl
    · exact p.detokenize.ends_submission _ fun _ => rfl
    · exact reports_load
    · exact fun _ => rfl

theorem equipped_fresh : fresh.1.Equipped := by
  constructor
  · change Tokens.tokenizeDialog.action = _
    rw [Tokens.tokenizeDialog, Dialog.ofForm]
  · change Tokens.detokenizeDialog.action = _
    rw [Tokens.detokenizeDialog, Dialog.ofForm]

theorem equipped_update [Zone] {p : AdminPage} (h : p.Equipped) (now : Nat) (m : Message)
    (toasts : Toasts) : (p.update now m toasts).page.Equipped := by
  cases m with
  | tokenize m =>
    rw [update_tokenize]
    exact ⟨(p.tokenize.update_action now m toasts).trans h.tokenize, h.detokenize⟩
  | detokenize m => exact ⟨h.tokenize, (p.detokenize.update_action now m toasts).trans h.detokenize⟩
  | _ => exact ⟨h.tokenize, h.detokenize⟩

theorem serves_update [Zone] {p : AdminPage} (h : p.Equipped) (now : Nat) (m : Message)
    (toasts : Toasts) {f : Flow Message} (hf : f ∈ flows (p.update now m toasts).effects) :
    ∃ j, machine.jobOf f = some j ∧ Serves j f := by
  obtain ⟨j, hj, rfl, hreports⟩ := plans.mem (now, toasts) hf
  refine ⟨j, Machine.jobOf_eq hreports, ?_⟩
  rcases starts_cases hj with rfl | rfl | rfl | ⟨id, rfl⟩
  · exact ⟨p.tokenize.form.payload, by rw [flowOf, Dialog.submission, h.tokenize]⟩
  · exact ⟨p.detokenize.form.payload, by rw [flowOf, Dialog.submission, h.detokenize]⟩
  · rfl
  · rfl

theorem Balanced.message [Zone] {p : AdminPage} {js : List (Option Job)} (h : p.Balanced js)
    (now : Nat) {m : Message} (hm : m.job? = none) (toasts : Toasts) :
    (p.update now m toasts).page.Balanced (js ++ (p.starts m).map some) := by
  cases m with
  | openTokenize =>
    change (p.update now .openTokenize toasts).page.Balanced (js ++ [])
    rw [List.append_nil]
    exact ⟨h.grid, h.tokenize, h.detokenize⟩
  | openDetokenize =>
    change (p.update now .openDetokenize toasts).page.Balanced (js ++ [])
    rw [List.append_nil]
    exact ⟨h.grid, h.tokenize, h.detokenize⟩
  | tokenize m =>
    have hr : m.isReport = false := by simpa [Message.job?] using hm
    have ho : m.outcome = none := Dialog.outcome_of_not_isReport hr
    have hown : (p.starts (.tokenize m)).count .tokenize = (m.submits p.tokenize).toNat := by
      cases hs : m.submits p.tokenize <;> simp [starts, hs, ho]
    have hother : ∀ j, j ≠ .tokenize → j ∉ p.starts (.tokenize m) := by
      intro j hj
      simp [starts, ho, hj]
    rw [update_tokenize, ho]
    refine ⟨h.grid.ignore (Machine.count_append_of_not_mem (hother _ (by simp)))
      fun id => Machine.count_append_of_not_mem (hother _ (by simp)), ?_, ?_⟩
    · rw [Machine.count_append_some, hown]
      exact h.tokenize.message now toasts hr
    · rw [Machine.count_append_of_not_mem (hother _ (by simp))]
      exact h.detokenize
  | detokenize m =>
    have hr : m.isReport = false := by simpa [Message.job?] using hm
    have hown : (p.starts (.detokenize m)).count .detokenize = (m.submits p.detokenize).toNat := by
      cases hs : m.submits p.detokenize <;> simp [starts, hs]
    have hother : ∀ j, j ≠ .detokenize → j ∉ p.starts (.detokenize m) := by
      intro j hj
      simp [starts, hj]
    refine ⟨h.grid.ignore (Machine.count_append_of_not_mem (hother _ (by simp)))
      fun id => Machine.count_append_of_not_mem (hother _ (by simp)), ?_, ?_⟩
    · rw [Machine.count_append_of_not_mem (hother _ (by simp))]
      exact h.tokenize
    · rw [Machine.count_append_some, hown]
      exact h.detokenize.message now toasts hr
  | grid m =>
    have hown : ∀ j ∈ p.starts (.grid m), j = .load ∨ ∃ id, j = .deletion id :=
      fun j hj => Grid.starts_cases (Option.mem_toList.1 hj)
    refine ⟨h.grid.message now hm toasts, ?_, ?_⟩
    · have hother : Job.tokenize ∉ p.starts (.grid m) := by
        intro hj
        rcases hown _ hj with he | ⟨id, he⟩ <;> cases he
      rw [Machine.count_append_of_not_mem hother]
      exact h.tokenize
    · have hother : Job.detokenize ∉ p.starts (.grid m) := by
        intro hj
        rcases hown _ hj with he | ⟨id, he⟩ <;> cases he
      rw [Machine.count_append_of_not_mem hother]
      exact h.detokenize
  | logout =>
    change (p.update now .logout toasts).page.Balanced (js ++ [])
    rw [List.append_nil]
    exact h

/-- A report takes its job away. Only the report of a new token starts another one. -/
theorem Balanced.report [Zone] {p : AdminPage} {j : Job} {as bs : List (Option Job)}
    (h : p.Balanced (as ++ some j :: bs)) (now : Nat) {m : Message} (hm : m.job? = some j)
    (toasts : Toasts) :
    (p.update now m toasts).page.Balanced (as ++ bs ++ (p.starts m).map some) := by
  cases m with
  | openTokenize => cases hm
  | openDetokenize => cases hm
  | tokenize m =>
    obtain ⟨hr, rfl⟩ : m.isReport = true ∧ Job.tokenize = j := by simpa [Message.job?] using hm
    have hgrid : p.grid.Balanced (as ++ bs) :=
      h.grid.ignore (Machine.count_cut_of_ne (by simp)).symm
        fun id => (Machine.count_cut_of_ne (by simp)).symm
    have htok := h.tokenize
    rw [Machine.count_cut_self] at htok
    have hdet := h.detokenize
    rw [Machine.count_cut_of_ne (by simp)] at hdet
    have hs : p.starts (.tokenize m) = if m.outcome.isSome then [.load] else [] := by
      simp [starts, Dialog.not_submits_of_isReport hr]
    rw [update_tokenize, hs]
    by_cases ho : m.outcome.isSome = true
    · simp only [ho, if_true]
      refine ⟨hgrid.load, ?_, ?_⟩
      · rw [Machine.count_append_some]
        exact htok.report now toasts hr
      · rw [Machine.count_append_some]
        exact hdet
    · simp only [ho, Bool.false_eq_true, if_false, List.map_nil, List.append_nil]
      exact ⟨hgrid, htok.report now toasts hr, hdet⟩
  | detokenize m =>
    obtain ⟨hr, rfl⟩ : m.isReport = true ∧ Job.detokenize = j := by simpa [Message.job?] using hm
    have hgrid : p.grid.Balanced (as ++ bs) :=
      h.grid.ignore (Machine.count_cut_of_ne (by simp)).symm
        fun id => (Machine.count_cut_of_ne (by simp)).symm
    have htok := h.tokenize
    rw [Machine.count_cut_of_ne (by simp)] at htok
    have hdet := h.detokenize
    rw [Machine.count_cut_self] at hdet
    have hs : p.starts (.detokenize m) = [] := by
      simp [starts, Dialog.not_submits_of_isReport hr]
    rw [hs, List.map_nil, List.append_nil]
    exact ⟨hgrid, htok, hdet.report now toasts hr⟩
  | grid m =>
    obtain ⟨hgrid, hs⟩ := h.grid.report now hm toasts
    have hnone : p.starts (.grid m) = [] := by simp [starts, hs]
    rw [hnone, List.map_nil, List.append_nil]
    have htok := h.tokenize
    have hdet := h.detokenize
    rcases Grid.Message.job?_cases hm with rfl | ⟨id, rfl⟩
    · rw [Machine.count_cut_of_ne (by simp)] at htok hdet
      exact ⟨hgrid, htok, hdet⟩
    · rw [Machine.count_cut_of_ne (by simp)] at htok hdet
      exact ⟨hgrid, htok, hdet⟩
  | logout => cases hm

theorem keeps_balanced [Zone] : machine.Keeps (fun _ m => m.job? = none) Balanced :=
  plans.keeps (fun env _ _ _ h hm => h.message env.1 hm env.2)
    fun env _ _ _ _ _ hm h => h.report env.1 hm env.2

end TokenConsole.AdminPage
