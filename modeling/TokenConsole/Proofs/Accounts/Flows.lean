import TokenConsole.Proofs.Accounts.Registration

/-!
# What signing up and signing in ask for

An account is asked for once, with a password that the policy allows and that was given twice. A
sign in asks for the user and then for the role of that very user.
-/
namespace TokenConsole

open TokenConsole.Gateway (Call Exchange Flow)

namespace Password

/-- What the policy asks of a password. -/
structure Allowed (password : String) : Prop where
  atLeast : 8 ≤ password.toList.length
  atMost : password.toList.length ≤ 72
  ascii : ∀ c ∈ password.toList, c.toNat < 128
  letter : ∃ c ∈ password.toList, c.isAlpha = true
  digit : ∃ c ∈ password.toList, c.isDigit = true

theorem problem?_eq_none_iff (password : String) : problem? password = none ↔ Allowed password := by
  rw [problem?_eq_iff]
  constructor
  · intro h
    cases h with
    | allowed hfits hascii hletter hdigit =>
      simp only [← isAlpha_iff, ← isDigit_iff] at hletter hdigit
      exact ⟨hfits.1, hfits.2, hascii, hletter, hdigit⟩
  · intro h
    obtain ⟨hmin, hmax, hascii, hletter, hdigit⟩ := h
    simp only [isAlpha_iff, isDigit_iff] at hletter hdigit
    exact .allowed ⟨hmin, hmax⟩ hascii hletter hdigit

end Password

namespace Accounts

theorem asks_signUp {p : Payload} {xs : List Exchange} {c : Call} (h : (signUp p).Asks xs c) :
    xs = [] ∧ c = .signUp (value p "login") (value p "password") ∧
      value p "password" = value p "password_again" ∧ Password.Allowed (value p "password") := by
  obtain ⟨⟨hxs, hc⟩, hagree, hproblem⟩ := register_asks_iff.1 h
  exact ⟨hxs, hc, hagree, (Password.problem?_eq_none_iff _).1 hproblem⟩

theorem asks_signIn {p : Payload} {xs : List Exchange} {c : Call} (h : (signIn p).Asks xs c) :
    (xs = [] ∧ c = .signIn (value p "login") (value p "password")) ∨
      ∃ id, xs = [⟨.signIn (value p "login") (value p "password"), .ok id⟩] ∧ c = .isAdmin id := by
  unfold signIn authenticate at h
  rcases h.cases with h | ⟨reply, ys, rfl, hrest⟩
  · exact .inl h
  · cases reply with
    | error e => exact absurd hrest Flow.not_asks_done
    | ok id =>
      rcases hrest.cases with ⟨rfl, hc⟩ | ⟨reply, zs, -, hend⟩
      · exact .inr ⟨id, rfl, hc⟩
      · exact absurd hend Flow.not_asks_done

end Accounts

end TokenConsole
