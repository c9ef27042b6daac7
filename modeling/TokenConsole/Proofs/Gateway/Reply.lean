import TokenConsole.Gateway.Exchange
import TokenConsole.Proofs.Gateway.Listing

/-!
# What a status says

A status that is no success decides alone which error a call ends with; the body only lends it a
text. A status that is a success leaves it to the body, which can be of the wrong shape or badly
encoded and no worse.
-/
namespace TokenConsole.Gateway

theorem Status.isSuccess_iff {status : Nat} :
    isSuccess status = true ↔ 200 ≤ status ∧ status ≤ 299 := by
  rw [isSuccess, Bool.and_eq_true, decide_eq_true_iff, decide_eq_true_iff]

namespace Call

variable {c : Call} {r : Response} {e : Error}

/-! ### Failures -/

/-- A status that has a meaning of its own for a call, and the error that says so. -/
inductive Meaning : Call → Nat → Error → Prop where
  | taken (login password : String) : Meaning (.signUp login password) 409 .conflict
  | wrongPassword (login password : String) :
    Meaning (.signIn login password) 401 .invalidCredentials
  | badToken (token : String) : Meaning (.detokenize token) 400 .invalidToken
  | expiredList : Meaning .listMappings 401 .sessionExpired
  | expiredDelete (id : String) : Meaning (.deleteMapping id) 401 .sessionExpired
  | expiredTokenize (plaintext : String) (ttl : Option Nat) :
    Meaning (.tokenize plaintext ttl) 401 .sessionExpired
  | expiredDetokenize (token : String) : Meaning (.detokenize token) 401 .sessionExpired

theorem Meaning.verdict {status : Nat} (h : Meaning c status e) :
    e = .conflict ∨ e = .invalidCredentials ∨ e = .invalidToken ∨ e = .sessionExpired := by
  cases h <;> simp

theorem meaning_of_needsSession (h : c.needsSession = true) : Meaning c 401 .sessionExpired := by
  cases c with
  | listMappings => exact .expiredList
  | deleteMapping id => exact .expiredDelete id
  | tokenize plaintext ttl => exact .expiredTokenize plaintext ttl
  | detokenize token => exact .expiredDetokenize token
  | signUp login password => cases h
  | signIn login password => cases h
  | isAdmin userId => cases h

/-- What means something means one thing, and it is a failure. -/
theorem Meaning.failure? (h : Meaning c r.status e) : c.failure? r = some e := by
  generalize hstatus : r.status = status at h
  cases h <;> simp [Call.failure?, needsSession, hstatus, Status.isSuccess]

theorem failure?_of_no_meaning (hrefused : ¬(200 ≤ r.status ∧ r.status ≤ 299))
    (h : ∀ e, ¬Meaning c r.status e) :
    c.failure? r = some (.http r.status (Answer.failureText r.status r.text)) := by
  have hexpired : ¬(c.needsSession = true ∧ r.status = 401) := by
    rintro ⟨hc, hstatus⟩
    exact h _ (hstatus ▸ meaning_of_needsSession hc)
  unfold Call.failure?
  rw [if_neg hexpired, if_neg (mt Status.isSuccess_iff.1 hrefused)]
  split
  · next login password hstatus => exact absurd (hstatus ▸ .taken login password) (h .conflict)
  · next login password hstatus =>
    exact absurd (hstatus ▸ .wrongPassword login password) (h .invalidCredentials)
  · next token hstatus => exact absurd (hstatus ▸ .badToken token) (h .invalidToken)
  · rfl

theorem failure?_of_success (h : 200 ≤ r.status ∧ r.status ≤ 299) : c.failure? r = none := by
  unfold Call.failure?
  rw [if_neg (by omega), if_pos (Status.isSuccess_iff.2 h)]

/-! ### Successes -/

theorem holding_error {α : Type} {read : List UInt8 → Option α} (h : r.holding read = .error e) :
    ∃ text, e = .unexpectedShape text := by
  unfold Response.holding at h
  split at h
  · cases h
  · cases h
    exact ⟨_, rfl⟩

theorem plaintextOf_error {encoded : String} (h : plaintextOf encoded = .error e) :
    ∃ text, e = .decode text := by
  unfold plaintextOf at h
  split at h
  · cases h
    exact ⟨_, rfl⟩
  · split at h
    · cases h
      exact ⟨_, rfl⟩
    · cases h

/-- A body that was asked for can have the wrong shape, or hold what cannot be decoded. -/
theorem success_error (h : c.success r = .error e) :
    (∃ text, e = .unexpectedShape text) ∨ ∃ text, e = .decode text := by
  cases c with
  | signUp login password => cases h
  | signIn login password => exact .inl (holding_error h)
  | isAdmin userId => exact .inl (holding_error h)
  | listMappings =>
    simp only [success] at h
    split at h
    · exact .inl (Mapping.listOfJson_error h)
    · next he =>
      cases h
      exact .inl (holding_error he)
  | deleteMapping id => cases h
  | tokenize plaintext ttl => exact .inl (holding_error h)
  | detokenize token =>
    simp only [success] at h
    split at h
    · exact .inr (plaintextOf_error h)
    · next he =>
      cases h
      exact .inl (holding_error he)

theorem read_of_success (h : 200 ≤ r.status ∧ r.status ≤ 299) : c.read r = c.success r := by
  rw [read, failure?_of_success h]

theorem read_of_failure (h : c.failure? r = some e) : c.read r = .error e := by
  rw [read, h]

/-- A status that is refused comes with a meaning of its own or is passed on. -/
theorem read_of_refused (hrefused : ¬(200 ≤ r.status ∧ r.status ≤ 299)) :
    ∃ e, c.read r = .error e ∧
      (Meaning c r.status e ∨ e = .http r.status (Answer.failureText r.status r.text)) := by
  by_cases h : ∃ e, Meaning c r.status e
  · obtain ⟨e, he⟩ := h
    exact ⟨e, read_of_failure he.failure?, .inl he⟩
  · have hnone : ∀ e, ¬Meaning c r.status e := fun e he => h ⟨e, he⟩
    exact ⟨_, read_of_failure (failure?_of_no_meaning hrefused hnone), .inr rfl⟩

theorem meaning_of_read (h : c.read r = .error e)
    (hverdict : e = .conflict ∨ e = .invalidCredentials ∨ e = .invalidToken ∨ e = .sessionExpired) :
    Meaning c r.status e := by
  by_cases hstatus : 200 ≤ r.status ∧ r.status ≤ 299
  · rw [read_of_success hstatus] at h
    rcases success_error h with ⟨text, rfl⟩ | ⟨text, rfl⟩
    · simp at hverdict
    · simp at hverdict
  · obtain ⟨e', he', hmeaning⟩ := read_of_refused (c := c) hstatus
    have hsame : e' = e := Except.error.inj (he'.symm.trans h)
    subst hsame
    rcases hmeaning with hmeaning | rfl
    · exact hmeaning
    · simp at hverdict

/-! ### Every call and every answer -/

/-- Outside of 200 to 299 no body is looked at for an answer. From 200 to 299 the body decides, and
only its shape and its encoding can be wrong. Four errors are had by the statuses that mean them
for the call, and by nothing else. A status that is refused and means nothing is passed on with the
text of the body. Who signs up or deletes is not concerned with the body of a success. -/
theorem read_by_status (c : Call) (r : Response) :
    (¬(200 ≤ r.status ∧ r.status ≤ 299) → (∀ a, c.read r ≠ .ok a) ∧
      ∀ text, c.read r ≠ .error (.unexpectedShape text) ∧ c.read r ≠ .error (.decode text)) ∧
    (200 ≤ r.status ∧ r.status ≤ 299 → ∀ e, c.read r = .error e →
      (∃ text, e = .unexpectedShape text) ∨ ∃ text, e = .decode text) ∧
    (∀ e, e = .conflict ∨ e = .invalidCredentials ∨ e = .invalidToken ∨ e = .sessionExpired →
      (c.read r = .error e ↔ Meaning c r.status e)) ∧
    (¬(200 ≤ r.status ∧ r.status ≤ 299) → (∀ e, ¬Meaning c r.status e) →
      c.read r = .error (.http r.status (Answer.failureText r.status r.text))) ∧
    (200 ≤ r.status ∧ r.status ≤ 299 →
      (∃ login password, c = .signUp login password) ∨ (∃ id, c = .deleteMapping id) →
        ∃ done, c.read r = .ok done) := by
  refine ⟨fun hrefused => ?_, fun hstatus e h => ?_, fun e hverdict => ?_, fun hrefused hnone => ?_,
    fun hstatus hcall => ?_⟩
  · obtain ⟨e, he, hmeaning⟩ := read_of_refused (c := c) hrefused
    have hother : ∀ text, e ≠ .unexpectedShape text ∧ e ≠ .decode text := by
      intro text
      rcases hmeaning with hmeaning | rfl
      · rcases hmeaning.verdict with rfl | rfl | rfl | rfl <;> exact ⟨nofun, nofun⟩
      · exact ⟨nofun, nofun⟩
    rw [he]
    exact ⟨nofun, fun text => ⟨fun h => (hother text).1 (Except.error.inj h),
      fun h => (hother text).2 (Except.error.inj h)⟩⟩
  · rw [read_of_success hstatus] at h
    exact success_error h
  · exact ⟨fun h => meaning_of_read h hverdict, fun h => read_of_failure h.failure?⟩
  · exact read_of_failure (failure?_of_no_meaning hrefused hnone)
  · rw [read_of_success hstatus]
    rcases hcall with ⟨login, password, rfl⟩ | ⟨id, rfl⟩
    · exact ⟨(), rfl⟩
    · exact ⟨(), rfl⟩

/-- A token is refused, a session is over, a list cannot be had, a deletion is done without a body,
and an answer that points elsewhere signs nobody in. -/
theorem read_of_statuses :
    (Call.detokenize "t").read ⟨400, [], false, []⟩ = .error .invalidToken ∧
    (Call.detokenize "t").read ⟨401, [], false, []⟩ = .error .sessionExpired ∧
    Call.listMappings.read ⟨503, [], true, []⟩ =
      .error (.http 503 "Failed to read response text") ∧
    (∃ done, (Call.deleteMapping "a").read ⟨204, [], false, []⟩ = .ok done) ∧
    ∀ a, (Call.signIn "root" "secret").read ⟨304, [], false, []⟩ ≠ .ok a := by
  obtain ⟨-, -, htoken, -, -⟩ := read_by_status (.detokenize "t") ⟨400, [], false, []⟩
  obtain ⟨-, -, hsession, -, -⟩ := read_by_status (.detokenize "t") ⟨401, [], false, []⟩
  obtain ⟨-, -, -, hlist, -⟩ := read_by_status .listMappings ⟨503, [], true, []⟩
  obtain ⟨-, -, -, -, hdelete⟩ := read_by_status (.deleteMapping "a") ⟨204, [], false, []⟩
  obtain ⟨hmoved, -⟩ := read_by_status (.signIn "root" "secret") ⟨304, [], false, []⟩
  have htext : Answer.failureText 503 "Failed to read response text" =
      "Failed to read response text" := by decide +kernel
  refine ⟨(htoken _ (by simp)).2 (.badToken "t"), (hsession _ (by simp)).2 (.expiredDetokenize "t"),
    ?_, hdelete (by decide) (.inr ⟨"a", rfl⟩), (hmoved (by decide)).1⟩
  rw [hlist (by decide) nofun]
  exact congrArg (fun text => Except.error (Error.http 503 text)) htext

end Call

end TokenConsole.Gateway
