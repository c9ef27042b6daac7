import TokenConsole.Page.Login
import TokenConsole.Proofs.Dialog.Submission
import TokenConsole.Proofs.Machine.Tasks

/-!
# The login page at work

The page with the submissions of its dialogs. Each dialog keeps its own account; `Balanced` puts
them together, and the page keeps it through every message and report.
-/
namespace TokenConsole.LoginPage

open TokenConsole.Gateway (Flow)

/-- The job whose end a message reports. -/
def Message.job? : Message → Option Job
  | .signIn m => if m.isReport then some .signIn else none
  | .signUp m => if m.isReport then some .signUp else none
  | _ => none

/-- The page, with the time and the toasts around it. -/
def machine : Machine (Nat × Toasts) LoginPage Message where
  update env m p := let s := p.update env.1 m env.2; (s.page, s.effects)
  session _ := 1
  turns _ _ _ := false
  job? := Message.job?

def start : Runtime LoginPage Message := machine.begin fresh []

/-- The jobs that a message starts. -/
def starts (p : LoginPage) : Message → List Job
  | .signIn m => if m.submits p.signIn then [.signIn] else []
  | .signUp m => if m.submits p.signUp then [.signUp] else []
  | _ => []

/-- The flow of a job of the page. -/
def flowOf (p : LoginPage) : Job → Flow Message
  | .signUp => p.signUp.submission.map .signUp
  | _ => p.signIn.submission.map .signIn

/-- The flows that serve a job. -/
def Serves : Job → Flow Message → Prop
  | .signIn, f => ∃ p, f = ((Accounts.signIn p).map .submitted).map .signIn
  | .signUp, f => ∃ p, f = ((Accounts.signUp p).map .submitted).map .signUp
  | _, _ => False

theorem brief_of_serves {j : Job} {f : Flow Message} (h : Serves j f) (hj : j ≠ .signIn) :
    f.Brief := by
  cases j with
  | signIn => exact absurd rfl hj
  | signUp =>
    obtain ⟨p, rfl⟩ := h
    refine Flow.Brief.map (Flow.Brief.map ?_ _) _
    unfold Accounts.signUp Accounts.register
    split
    · exact .done _
    · split
      · exact .done _
      · exact .call fun r => ⟨_, rfl⟩
  | _ => cases h

/-- The dialogs run the actions that they are there for. -/
structure Equipped (p : LoginPage) : Prop where
  signIn : p.signIn.action = Accounts.signIn
  signUp : p.signUp.action = Accounts.signUp

structure Balanced (p : LoginPage) (js : List (Option Job)) : Prop where
  signIn : p.signIn.Carries (js.count (some .signIn))
  signUp : p.signUp.Carries (js.count (some .signUp))

section

variable (now : Nat) (toasts : Toasts) (p : LoginPage)

/-- The toasts around the page mean nothing to it. -/
theorem update_page_eq (m : Message) (a b : Toasts) :
    (p.update now m a).page = (p.update now m b).page := by
  cases m with
  | signIn m => simp only [update, p.signIn.update_dialog_eq now m a b]
  | signUp m => simp only [update, p.signUp.update_dialog_eq now m a b]
  | _ => rfl

/-- A user comes from a sign in that has just succeeded. -/
theorem user_eq_some {m : Message} {u : Accounts.User} (h : (p.update now m toasts).user = some u) :
    m = .signIn (.submitted (.ok u)) := by
  cases m with
  | signIn m =>
    simp only [update, Dialog.update_outcome] at h
    rw [Dialog.outcome_eq_some h]
  | _ => cases h

theorem user_of_admin {u : Accounts.User} (hu : u.admin = true) :
    (p.update now (.signIn (.submitted (.ok u))) toasts).user = some u := by
  have hmessage : Outcome.message u = "Signed in as admin" := if_pos hu
  have hblank : Text.isBlank "Signed in as admin" = false := by decide
  simp [update, Dialog.update, Dialog.verdict, hmessage, hblank]

/-- A message starts the flows of its jobs and nothing else. -/
theorem flows_update (m : Message) :
    flows (p.update now m toasts).effects = (p.starts m).map p.flowOf := by
  cases m with
  | openSignIn => simp [update, starts]
  | openSignUp => simp [update, starts]
  | signIn m =>
    by_cases h : m.submits p.signIn = true <;> simp [update, Dialog.flows_update, starts, flowOf, h]
  | signUp m =>
    by_cases h : m.submits p.signUp = true <;> simp [update, Dialog.flows_update, starts, flowOf, h]

end

/-- The page has jobs of two kinds, and each is a submission. -/
theorem starts_cases {p : LoginPage} {m : Message} {j : Job} (h : j ∈ p.starts m) :
    (j = .signIn ∧ m = .signIn .submit) ∨ (j = .signUp ∧ m = .signUp .submit) := by
  cases m with
  | openSignIn => cases h
  | openSignUp => cases h
  | signIn m =>
    obtain ⟨hs, rfl⟩ : m.submits p.signIn = true ∧ j = .signIn := by simpa [starts] using h
    exact .inl ⟨rfl, by rw [Dialog.eq_submit_of_submits hs]⟩
  | signUp m =>
    obtain ⟨hs, rfl⟩ : m.submits p.signUp = true ∧ j = .signUp := by simpa [starts] using h
    exact .inr ⟨rfl, by rw [Dialog.eq_submit_of_submits hs]⟩

theorem plans : machine.Plans starts flowOf where
  flows_eq env m p := p.flows_update env.1 env.2 m
  reports p m j hj := by
    rcases starts_cases hj with ⟨rfl, -⟩ | ⟨rfl, -⟩
    · exact p.signIn.ends_submission _ fun _ => rfl
    · exact p.signUp.ends_submission _ fun _ => rfl

theorem equipped_fresh : fresh.Equipped := ⟨rfl, rfl⟩

theorem equipped_update {p : LoginPage} (h : p.Equipped) (now : Nat) (m : Message)
    (toasts : Toasts) : (p.update now m toasts).page.Equipped := by
  cases m with
  | signIn m => exact ⟨(p.signIn.update_action now m toasts).trans h.signIn, h.signUp⟩
  | signUp m => exact ⟨h.signIn, (p.signUp.update_action now m toasts).trans h.signUp⟩
  | _ => exact ⟨h.signIn, h.signUp⟩

theorem serves_update {p : LoginPage} (h : p.Equipped) (now : Nat) (m : Message) (toasts : Toasts)
    {f : Flow Message} (hf : f ∈ flows (p.update now m toasts).effects) :
    ∃ j, machine.jobOf f = some j ∧ Serves j f := by
  obtain ⟨j, hj, rfl, hreports⟩ := plans.mem (now, toasts) hf
  refine ⟨j, Machine.jobOf_eq hreports, ?_⟩
  rcases starts_cases hj with ⟨rfl, -⟩ | ⟨rfl, -⟩
  · refine ⟨p.signIn.form.payload, ?_⟩
    change p.signIn.submission.map Message.signIn = _
    rw [Dialog.submission, h.signIn]
  · exact ⟨p.signUp.form.payload, by rw [flowOf, Dialog.submission, h.signUp]⟩

/-- Only a submission of its dialog starts a sign in. -/
theorem submit_of_signIn {p : LoginPage} {now : Nat} {m : Message} {toasts : Toasts}
    {f : Flow Message} (hf : f ∈ flows (p.update now m toasts).effects)
    (hj : machine.jobOf f = some .signIn) : m = .signIn .submit := by
  obtain ⟨j, hstarts, -, hreports⟩ := plans.mem (now, toasts) hf
  rw [Machine.jobOf_eq hreports] at hj
  cases hj
  rcases starts_cases hstarts with ⟨-, hm⟩ | ⟨he, -⟩
  · exact hm
  · cases he

section

variable {p : LoginPage} {m : Message} {js as bs : List (Option Job)} {j : Job}

/-- A message from outside adds the submission that it starts. -/
theorem signIn_message (h : p.signIn.Carries (js.count (some .signIn))) (now : Nat)
    (hm : m.job? = none) (toasts : Toasts) : (p.update now m toasts).page.signIn.Carries
      ((js ++ (p.starts m).map some).count (some .signIn)) := by
  cases m with
  | signIn m =>
    have hr : m.isReport = false := by simpa [Message.job?] using hm
    have hown : (p.starts (.signIn m)).count .signIn = (m.submits p.signIn).toNat := by
      cases hs : m.submits p.signIn <;> simp [starts, hs]
    rw [Machine.count_append_some, hown]
    exact h.message now toasts hr
  | _ =>
    rw [Machine.count_append_of_not_mem (by simp [starts])]
    exact h

theorem signUp_message (h : p.signUp.Carries (js.count (some .signUp))) (now : Nat)
    (hm : m.job? = none) (toasts : Toasts) : (p.update now m toasts).page.signUp.Carries
      ((js ++ (p.starts m).map some).count (some .signUp)) := by
  cases m with
  | signUp m =>
    have hr : m.isReport = false := by simpa [Message.job?] using hm
    have hown : (p.starts (.signUp m)).count .signUp = (m.submits p.signUp).toNat := by
      cases hs : m.submits p.signUp <;> simp [starts, hs]
    rw [Machine.count_append_some, hown]
    exact h.message now toasts hr
  | _ =>
    rw [Machine.count_append_of_not_mem (by simp [starts])]
    exact h

/-- A report takes its submission away. -/
theorem signIn_report (h : p.signIn.Carries ((as ++ some j :: bs).count (some .signIn))) (now : Nat)
    (hm : m.job? = some j) (toasts : Toasts) :
    (p.update now m toasts).page.signIn.Carries ((as ++ bs).count (some .signIn)) := by
  cases m with
  | openSignIn => cases hm
  | openSignUp => cases hm
  | signIn m =>
    obtain ⟨hr, rfl⟩ : m.isReport = true ∧ Job.signIn = j := by simpa [Message.job?] using hm
    rw [Machine.count_cut_self] at h
    exact h.report now toasts hr
  | signUp m =>
    obtain ⟨-, rfl⟩ : m.isReport = true ∧ Job.signUp = j := by simpa [Message.job?] using hm
    rw [Machine.count_cut_of_ne (by decide)] at h
    exact h

theorem signUp_report (h : p.signUp.Carries ((as ++ some j :: bs).count (some .signUp))) (now : Nat)
    (hm : m.job? = some j) (toasts : Toasts) :
    (p.update now m toasts).page.signUp.Carries ((as ++ bs).count (some .signUp)) := by
  cases m with
  | openSignIn => cases hm
  | openSignUp => cases hm
  | signIn m =>
    obtain ⟨-, rfl⟩ : m.isReport = true ∧ Job.signIn = j := by simpa [Message.job?] using hm
    rw [Machine.count_cut_of_ne (by decide)] at h
    exact h
  | signUp m =>
    obtain ⟨hr, rfl⟩ : m.isReport = true ∧ Job.signUp = j := by simpa [Message.job?] using hm
    rw [Machine.count_cut_self] at h
    exact h.report now toasts hr

/-- A report starts nothing. -/
theorem starts_of_report (p : LoginPage) (hm : m.job? = some j) : p.starts m = [] := by
  refine List.eq_nil_iff_forall_not_mem.2 fun k hk => ?_
  rcases starts_cases hk with ⟨-, rfl⟩ | ⟨-, rfl⟩
  · cases hm
  · cases hm

end

theorem keeps_balanced : machine.Keeps (fun _ m => m.job? = none) Balanced := by
  refine plans.keeps (fun env m p js h hm => ?_) fun env m j p as bs hm h => ?_
  · exact ⟨signIn_message h.signIn env.1 hm env.2, signUp_message h.signUp env.1 hm env.2⟩
  · rw [starts_of_report p hm, List.map_nil, List.append_nil]
    exact ⟨signIn_report h.signIn env.1 hm env.2, signUp_report h.signUp env.1 hm env.2⟩

end TokenConsole.LoginPage
