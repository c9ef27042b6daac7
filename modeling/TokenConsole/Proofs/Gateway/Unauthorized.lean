import TokenConsole.Gateway.Session
import TokenConsole.Proofs.Gateway.Reply

/-!
# Answers that deny access

A gateway denies access with status 401. A call for users who are signed in then finds that the
session is over, and a sign in that the login or the password is wrong. Signing up and asking for
the role of a user need no session; there the status is passed on like any other.
-/
namespace TokenConsole.Gateway

namespace Call

variable {c : Call} {r : Response}

/-- What a call makes of a 401. The text counts only where the status is passed on. -/
def denial (c : Call) (text : String) : Error :=
  match c with
  | .signUp .. | .isAdmin _ => .http 401 text
  | .signIn .. => .invalidCredentials
  | .listMappings | .deleteMapping _ | .tokenize .. | .detokenize _ => .sessionExpired

/-- A 401 with no meaning of its own for a call is passed on. -/
theorem read_of_passed (hstatus : r.status = 401) (hnone : ∀ e, ¬Meaning c 401 e) :
    c.read r = .error (.http 401 (Answer.failureText 401 r.text)) := by
  have hfailure : c.failure? r = some (.http r.status (Answer.failureText r.status r.text)) :=
    failure?_of_no_meaning (by omega) (by rwa [hstatus])
  rw [read_of_failure hfailure, hstatus]

theorem read_of_meaning {e : Error} (hstatus : r.status = 401) (h : Meaning c 401 e) :
    c.read r = .error e :=
  read_of_failure (hstatus ▸ h : Meaning c r.status e).failure?

theorem read_of_unauthorized (hstatus : r.status = 401) :
    c.read r = .error (c.denial (Answer.failureText 401 r.text)) := by
  cases c with
  | signUp login password => exact read_of_passed hstatus nofun
  | signIn login password => exact read_of_meaning hstatus (.wrongPassword login password)
  | isAdmin userId => exact read_of_passed hstatus nofun
  | listMappings => exact read_of_meaning hstatus .expiredList
  | deleteMapping id => exact read_of_meaning hstatus (.expiredDelete id)
  | tokenize plaintext ttl => exact read_of_meaning hstatus (.expiredTokenize plaintext ttl)
  | detokenize token => exact read_of_meaning hstatus (.expiredDetokenize token)

end Call

namespace Session

variable {τ : Type} {carry : Request → τ → Option Response × τ} {c : Call} {s : Session × τ}
  {r : Response}

/-- The call is sent over the session, and the response comes back. -/
def Brings (carry : Request → τ → Option Response × τ) (c : Call) (s : Session × τ)
    (r : Response) : Prop :=
  ∃ q t, s.1.request c = .ok q ∧ carry q s.2 = (some r, t)

theorem serve_of_brings (h : Brings carry c s r) : (serve carry c s).1 = c.read r := by
  obtain ⟨q, t, hrequest, hcarry⟩ := h
  rw [serve, hrequest]
  dsimp only
  rw [hcarry]

/-- Whatever the session, the arguments of the call and the body: a 401 means that the session is
over to the four calls on mappings and tokens and a wrong password to a sign in, and to nobody else.
Signing up and asking for a role pass it on with the text of the body, and they alone do. -/
theorem unauthorized_generic_iff (h : Brings carry c s r) (hstatus : r.status = 401) :
    ((serve carry c s).1 = .error .sessionExpired ↔
      c = .listMappings ∨ (∃ id, c = .deleteMapping id) ∨
        (∃ plaintext ttl, c = .tokenize plaintext ttl) ∨ ∃ token, c = .detokenize token) ∧
    ((serve carry c s).1 = .error .invalidCredentials ↔
      ∃ login password, c = .signIn login password) ∧
    ∀ status text, (serve carry c s).1 = .error (.http status text) ↔
      ((∃ login password, c = .signUp login password) ∨ ∃ userId, c = .isAdmin userId) ∧
        status = 401 ∧ text = Answer.failureText 401 r.text := by
  rw [serve_of_brings h, Call.read_of_unauthorized hstatus]
  generalize Answer.failureText 401 r.text = said
  cases c <;> simp [Call.denial, eq_comm]

/-- What a gateway says that wants a sign in first. -/
def loginFirst : Response :=
  ⟨401, Text.Utf8.encode "\x7b\"error\": \"please log in first\"\x7d", false, []⟩

/-- A gateway that denies everything. -/
def denying : Request → Unit → Option Response × Unit := fun _ _ => (some loginFirst, ())

/-- A new session with a gateway on this machine. -/
def nearby : Session × Unit := (fresh "http://[::1]:8080/api/v1", ())

theorem brings_denial : Brings denying (.deleteMapping "t-1") nearby loginFirst := by
  have hsent : (nearby.1.request (.deleteMapping "t-1")).toOption.isSome = true := by
    decide +kernel
  cases hrequest : nearby.1.request (.deleteMapping "t-1") with
  | error e =>
    rw [hrequest] at hsent
    cases hsent
  | ok q => exact ⟨q, (), hrequest, rfl⟩

/-- A deletion that is denied finds the session over. -/
theorem deletion_denied : Brings denying (.deleteMapping "t-1") nearby loginFirst ∧
    loginFirst.status = 401 ∧
    (serve denying (.deleteMapping "t-1") nearby).1 = .error .sessionExpired :=
  ⟨brings_denial, rfl, (unauthorized_generic_iff brings_denial rfl).1.2 (.inr (.inl ⟨"t-1", rfl⟩))⟩

/-- Asking for the role of a user and signing up end with the status as it came. -/
theorem role_denied_generic :
    (serve denying (.isAdmin "42") nearby).1 = .error (.http 401 "please log in first") ∧
    (serve denying (.signUp "root" "passw0rd") nearby).1 =
      .error (.http 401 "please log in first") := by
  constructor <;> decide +kernel

end Session

end TokenConsole.Gateway
