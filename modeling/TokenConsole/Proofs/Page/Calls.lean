import TokenConsole.Proofs.Accounts.Flows
import TokenConsole.Proofs.Dialog.Entry
import TokenConsole.Proofs.Page.Admin
import TokenConsole.Proofs.Page.Login

/-!
# What the pages call the gateway for

The dialogs keep the fields that they were declared with, so an accepted submission has what its
action counts on. `Warrants` says for each call of a page which message it comes from and what holds
of its arguments.
-/
namespace TokenConsole

open TokenConsole.Calendar (Zone)
open TokenConsole.Gateway (Call Exchange Flow)

namespace Tokens

theorem asks_tokenize {p : Payload} {xs : List Exchange} {c : Call} (h : (tokenize p).Asks xs c) :
    c = .tokenize ((p.get? "plaintext").getD "") (ttl? p) :=
  (Flow.asks_ask h).2

/-- A token is sent without the white space around it, if anything else is there. -/
theorem asks_detokenize {p : Payload} {xs : List Exchange} {c : Call}
    (h : (detokenize p).Asks xs c) :
    ∃ token, c = .detokenize token ∧ token ≠ "" ∧ Text.trim token = token := by
  unfold detokenize at h
  dsimp only at h
  split at h
  · exact absurd h Flow.not_asks_done
  · next hne => exact ⟨_, (Flow.asks_ask h).2, hne, Text.trim_trim _⟩

end Tokens

/-- The payload of a form has the value of a field. -/
theorem Accounts.value_payload {form : Form} (hd : form.Distinct) {name v : String}
    (hv : form.value? name = some v) : Accounts.value form.payload name = v := by
  rw [Accounts.value, Form.payload_get? hd, hv]
  rfl

namespace LoginPage

/-- The dialogs have the fields that they were declared with. -/
structure Declared (p : LoginPage) : Prop where
  signIn : p.signIn.form.declared = Accounts.signInDialog.form.declared
  signUp : p.signUp.form.declared = Accounts.signUpDialog.form.declared

theorem declared_fresh : fresh.Declared := ⟨rfl, rfl⟩

theorem declared_update {p : LoginPage} (h : p.Declared) (now : Nat) (m : Message)
    (toasts : Toasts) : (p.update now m toasts).page.Declared := by
  cases m with
  | openSignIn => exact ⟨(Form.declared_reset _).trans h.signIn, h.signUp⟩
  | openSignUp => exact ⟨h.signIn, (Form.declared_reset _).trans h.signUp⟩
  | signIn m => exact ⟨(p.signIn.update_declared now m toasts).trans h.signIn, h.signUp⟩
  | signUp m => exact ⟨h.signIn, (p.signUp.update_declared now m toasts).trans h.signUp⟩

/-- What holds of a call that comes from the message `m` to the page, after the answers `xs`. -/
def Warrants (p : LoginPage) (m : Message) (xs : List Exchange) : Call → Prop
  | .signUp login password =>
    m = .signUp .submit ∧ xs = [] ∧ p.signUp.form.value? "login" = some login ∧
      p.signUp.form.value? "password" = some password ∧
      p.signUp.form.value? "password_again" = some password ∧
      Text.trim login ≠ "" ∧ Password.Allowed password
  | .signIn login password =>
    m = .signIn .submit ∧ xs = [] ∧ p.signIn.form.value? "login" = some login ∧
      p.signIn.form.value? "password" = some password ∧ Text.trim login ≠ ""
  | .isAdmin user =>
    m = .signIn .submit ∧ ∃ login password, xs = [⟨.signIn login password, .ok user⟩]
  | _ => False

theorem warrants_signUp {p : LoginPage} (h : p.Declared) (ha : p.signUp.accepts = true)
    {xs : List Exchange} {c : Call} (hc : (Accounts.signUp p.signUp.form.payload).Asks xs c) :
    p.Warrants (.signUp .submit) xs c := by
  obtain ⟨rfl, rfl, hagree, hallowed⟩ := Accounts.asks_signUp hc
  have hd : p.signUp.form.Distinct := Form.distinct_of_declared h.signUp (by decide)
  obtain ⟨login, hlogin, hfilled⟩ := Dialog.required_of_accepts ha h.signUp (by decide)
    "login" rfl (g := Accounts.loginField) (by decide)
  obtain ⟨password, hpassword⟩ := Form.value?_of_declared "password" h.signUp
    (g := Accounts.passwordField) (by decide)
  obtain ⟨again, hagain⟩ := Form.value?_of_declared "password_again" h.signUp
    (g := Accounts.againField) (by decide)
  rw [Accounts.value_payload hd hpassword, Accounts.value_payload hd hagain] at hagree
  rw [Accounts.value_payload hd hpassword] at hallowed ⊢
  rw [Accounts.value_payload hd hlogin]
  exact ⟨rfl, rfl, hlogin, hpassword, hagree ▸ hagain, hfilled, hallowed⟩

theorem warrants_signIn {p : LoginPage} (h : p.Declared) (ha : p.signIn.accepts = true)
    {xs : List Exchange} {c : Call} (hc : (Accounts.signIn p.signIn.form.payload).Asks xs c) :
    p.Warrants (.signIn .submit) xs c := by
  have hd : p.signIn.form.Distinct := Form.distinct_of_declared h.signIn (by decide)
  obtain ⟨login, hlogin, hfilled⟩ := Dialog.required_of_accepts ha h.signIn (by decide)
    "login" rfl (g := Accounts.loginField) (by decide)
  obtain ⟨password, hpassword⟩ := Form.value?_of_declared "password" h.signIn
    (g := Accounts.passwordField) (by decide)
  rcases Accounts.asks_signIn hc with ⟨rfl, rfl⟩ | ⟨user, rfl, rfl⟩
  · rw [Accounts.value_payload hd hlogin, Accounts.value_payload hd hpassword]
    exact ⟨rfl, rfl, hlogin, hpassword, hfilled⟩
  · exact ⟨rfl, _, _, rfl⟩

/-- Each call of a flow that the page starts has its warrant. -/
theorem warrants_of_asks {p : LoginPage} (he : p.Equipped) (hd : p.Declared) {now : Nat}
    {m : Message} {toasts : Toasts} {f : Flow Message}
    (hf : f ∈ flows (p.update now m toasts).effects) {xs : List Exchange} {c : Call}
    (hc : f.Asks xs c) : p.Warrants m xs c := by
  obtain ⟨j, hj, rfl, -⟩ := plans.mem (now, toasts) hf
  rcases starts_cases hj with ⟨rfl, rfl⟩ | ⟨rfl, rfl⟩
  · have ha : p.signIn.accepts = true := by
      by_contra hn
      simp [starts, Dialog.Message.submits, hn] at hj
    change (p.signIn.submission.map Message.signIn).Asks xs c at hc
    rw [Dialog.submission, he.signIn] at hc
    exact warrants_signIn hd ha hc.of_map.of_map
  · have ha : p.signUp.accepts = true := by
      by_contra hn
      simp [starts, Dialog.Message.submits, hn] at hj
    rw [flowOf, Dialog.submission, he.signUp] at hc
    exact warrants_signUp hd ha hc.of_map.of_map

end LoginPage

/-- The id that waits to be confirmed was asked for just now, or waited before and still does. -/
theorem Grid.confirming_update [Zone] {now : Nat} {m : Grid.Message} {g : Grid} {toasts : Toasts}
    {id : String} (h : (g.update now m toasts).grid.confirming = some id) :
    (m = .requestDelete id ∧ g.isDeleting id = false) ∨
      (g.confirming = some id ∧ m ≠ .cancelDelete ∧ m ≠ .confirmDelete ∧
        ∀ k, m = .requestDelete k → g.isDeleting k = true) := by
  cases m with
  | refresh =>
    simp only [update] at h
    split at h <;> exact .inr ⟨h, by simp, by simp, by simp⟩
  | refreshed result => cases result <;> exact .inr ⟨h, by simp, by simp, by simp⟩
  | requestDelete k =>
    simp only [update] at h
    split at h
    · next hk => exact .inr ⟨h, by simp, by simp, by simpa using hk⟩
    · next hk =>
      cases h
      exact .inl ⟨rfl, by simpa using hk⟩
  | confirmDelete =>
    cases hc : g.confirming with
    | none =>
      simp only [update, confirm_of_none hc, hc] at h
      cases h
    | some k =>
      cases hd : g.isDeleting k with
      | true =>
        simp only [update, confirm_of_deleting hc hd] at h
        cases h
      | false =>
        simp only [update, confirm_of_idle hc hd] at h
        cases h
  | cancelDelete => cases h
  | deleted k result => cases result <;> exact .inr ⟨h, by simp, by simp, by simp⟩
  | nextPage =>
    simp only [update] at h
    split at h <;> exact .inr ⟨h, by simp, by simp, by simp⟩
  | _ => exact .inr ⟨h, by simp, by simp, by simp⟩

namespace AdminPage

theorem confirming_update [Zone] {now : Nat} {m : Message} {p : AdminPage} {toasts : Toasts}
    {id : String} (h : (p.update now m toasts).page.grid.confirming = some id) :
    (m = .grid (.requestDelete id) ∧ p.grid.isDeleting id = false) ∨
      (p.grid.confirming = some id ∧ m ≠ .grid .cancelDelete ∧ m ≠ .grid .confirmDelete ∧
        ∀ k, m = .grid (.requestDelete k) → p.grid.isDeleting k = true) := by
  cases m with
  | tokenize m =>
    rw [update_tokenize] at h
    dsimp only at h
    split at h <;> exact .inr ⟨h, by simp, by simp, by simp⟩
  | grid m =>
    rcases Grid.confirming_update h with ⟨rfl, hfree⟩ | ⟨hold, hcancel, hconfirm, hrequest⟩
    · exact .inl ⟨rfl, hfree⟩
    · exact .inr ⟨hold, fun he => hcancel (Message.grid.inj he),
        fun he => hconfirm (Message.grid.inj he), fun k he => hrequest k (Message.grid.inj he)⟩
  | _ => exact .inr ⟨h, by simp, by simp, by simp⟩

/-- The dialogs have the fields that they were declared with. -/
structure Declared (p : AdminPage) : Prop where
  tokenize : p.tokenize.form.declared = Tokens.tokenizeDialog.form.declared
  detokenize : p.detokenize.form.declared = Tokens.detokenizeDialog.form.declared

theorem declared_fresh : fresh.1.Declared := ⟨rfl, rfl⟩

theorem declared_update [Zone] {p : AdminPage} (h : p.Declared) (now : Nat) (m : Message)
    (toasts : Toasts) : (p.update now m toasts).page.Declared := by
  cases m with
  | openTokenize => exact ⟨(Form.declared_reset _).trans h.tokenize, h.detokenize⟩
  | openDetokenize => exact ⟨h.tokenize, (Form.declared_reset _).trans h.detokenize⟩
  | tokenize m =>
    rw [update_tokenize]
    exact ⟨(p.tokenize.update_declared now m toasts).trans h.tokenize, h.detokenize⟩
  | detokenize m =>
    exact ⟨h.tokenize, (p.detokenize.update_declared now m toasts).trans h.detokenize⟩
  | _ => exact ⟨h.tokenize, h.detokenize⟩

/-- What holds of a call that comes from the message `m` to the page. -/
def Warrants (p : AdminPage) (m : Message) : Call → Prop
  | .listMappings => True
  | .deleteMapping id => m = .grid .confirmDelete ∧ p.grid.confirming = some id
  | .tokenize plaintext _ =>
    m = .tokenize .submit ∧ p.tokenize.form.value? "plaintext" = some plaintext ∧
      Text.trim plaintext ≠ ""
  | .detokenize token => m = .detokenize .submit ∧ token ≠ "" ∧ Text.trim token = token
  | _ => False

/-- Only a submission of its dialog starts the making of a token. -/
theorem tokenize_mem_starts {p : AdminPage} {m : Message} (h : Job.tokenize ∈ p.starts m) :
    m = .tokenize .submit ∧ p.tokenize.accepts = true := by
  cases m with
  | tokenize m =>
    have hs : m.submits p.tokenize = true := by simpa [starts] using h
    obtain rfl := Dialog.eq_submit_of_submits hs
    exact ⟨rfl, hs⟩
  | detokenize m => simp [starts] at h
  | grid m =>
    rcases Grid.starts_cases (Option.mem_toList.1 h) with he | ⟨id, he⟩ <;> cases he
  | _ => cases h

theorem detokenize_mem_starts {p : AdminPage} {m : Message} (h : Job.detokenize ∈ p.starts m) :
    m = .detokenize .submit := by
  cases m with
  | tokenize m => simp [starts] at h
  | detokenize m =>
    have hs : m.submits p.detokenize = true := by simpa [starts] using h
    rw [Dialog.eq_submit_of_submits hs]
  | grid m =>
    rcases Grid.starts_cases (Option.mem_toList.1 h) with he | ⟨id, he⟩ <;> cases he
  | _ => cases h

/-- Only a confirmation starts a deletion. -/
theorem deletion_mem_starts {p : AdminPage} {m : Message} {id : String}
    (h : Job.deletion id ∈ p.starts m) :
    m = .grid .confirmDelete ∧ p.grid.confirming = some id := by
  cases m with
  | tokenize m => simp [starts] at h
  | detokenize m => simp [starts] at h
  | grid m =>
    have hs : p.grid.starts m = some (.deletion id) := Option.mem_toList.1 h
    cases m with
    | confirmDelete =>
      obtain ⟨k, hk, he⟩ := Option.map_eq_some_iff.1 hs
      cases he
      exact ⟨rfl, (Option.filter_eq_some_iff.1 hk).1⟩
    | refresh =>
      simp only [Grid.starts] at hs
      split at hs <;> cases hs
    | _ => cases hs
  | _ => cases h

/-- Each call of a flow that the page starts has its warrant. -/
theorem warrants_of_asks [Zone] {p : AdminPage} (he : p.Equipped) (hd : p.Declared) {now : Nat}
    {m : Message} {toasts : Toasts} {f : Flow Message}
    (hf : f ∈ flows (p.update now m toasts).effects) {xs : List Exchange} {c : Call}
    (hc : f.Asks xs c) : p.Warrants m c := by
  obtain ⟨j, hj, rfl, -⟩ := plans.mem (now, toasts) hf
  rcases starts_cases hj with rfl | rfl | rfl | ⟨id, rfl⟩
  · obtain ⟨rfl, ha⟩ := tokenize_mem_starts hj
    obtain ⟨plaintext, hvalue, hfilled⟩ := Dialog.required_of_accepts ha hd.tokenize (by decide)
      "plaintext" rfl (g := Tokens.plaintextField) (by decide)
    rw [flowOf, Dialog.submission, he.tokenize] at hc
    have hdistinct : p.tokenize.form.Distinct := Form.distinct_of_declared hd.tokenize (by decide)
    have hget : p.tokenize.form.payload.get? "plaintext" = some plaintext := by
      rw [Form.payload_get? hdistinct]
      exact hvalue
    rw [Tokens.asks_tokenize hc.of_map.of_map, hget]
    exact ⟨rfl, hvalue, hfilled⟩
  · obtain rfl := detokenize_mem_starts hj
    rw [flowOf, Dialog.submission, he.detokenize] at hc
    obtain ⟨token, rfl, hne, htrim⟩ := Tokens.asks_detokenize hc.of_map.of_map
    exact ⟨rfl, hne, htrim⟩
  · obtain ⟨-, rfl⟩ := Flow.asks_ask hc.of_map.of_map
    trivial
  · obtain ⟨-, rfl⟩ := Flow.asks_ask hc.of_map.of_map
    exact deletion_mem_starts hj

end AdminPage

end TokenConsole
