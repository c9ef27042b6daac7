import TokenConsole.Accounts
import TokenConsole.Proofs.Flow
import TokenConsole.Proofs.Password

/-!
# When an account is asked for

A registration asks the gateway for the account exactly with an allowed password that was given
twice. Otherwise it ends with a refusal, and the gateway does not hear of it.
-/
namespace TokenConsole.Accounts

open TokenConsole.Gateway (Call Exchange Flow)
open TokenConsole.Password (Judged problem?)

variable {login password again : String}

theorem register_of_refused (login : String)
    (h : ¬(password = again ∧ problem? password = none)) :
    ∃ e, register login password again = .done (.error e) := by
  unfold register
  split
  · exact ⟨_, rfl⟩
  · next hsame =>
    split
    · exact ⟨_, rfl⟩
    · next hnone => exact absurd ⟨Decidable.not_not.1 hsame, hnone⟩ h

theorem register_of_allowed (hsame : password = again) (hnone : problem? password = none) :
    register login password again =
      .call (.signUp login password) fun r => .done (r.map fun _ => registered) := by
  unfold register
  rw [if_neg (not_not_intro hsame), hnone]

/-- The only call of a registration is the first, and it is made exactly for an allowed password
that was given twice. -/
theorem register_asks_iff {xs : List Exchange} {c : Call} :
    (register login password again).Asks xs c ↔
      (xs = [] ∧ c = .signUp login password) ∧ password = again ∧ problem? password = none := by
  by_cases h : password = again ∧ problem? password = none
  · rw [register_of_allowed h.1 h.2, and_iff_left h]
    constructor
    · intro hasks
      rcases hasks.cases with hfirst | ⟨r, ys, -, hend⟩
      · exact hfirst
      · exact absurd hend Flow.not_asks_done
    · rintro ⟨rfl, rfl⟩
      exact ⟨_, .refl _⟩
  · obtain ⟨e, he⟩ := register_of_refused login h
    rw [he, iff_false_intro Flow.not_asks_done, false_iff]
    exact fun hasks => h hasks.2

/-- A password gets the first verdict that it deserves. If it is allowed, it takes 72 bytes at most.
A registration calls the gateway with an allowed password that was given twice, once and for
nothing else, and without one it is over at once. -/
theorem register_by_policy (login password again : String) :
    (∀ verdict, problem? password = verdict ↔ Judged password verdict) ∧
    (problem? password = none → (Text.Utf8.encode password).length ≤ 72) ∧
    (∀ xs c, (register login password again).Asks xs c ↔
      (xs = [] ∧ c = .signUp login password) ∧ password = again ∧ problem? password = none) ∧
    (¬(password = again ∧ problem? password = none) →
      ∃ e, register login password again = .done (.error e)) := by
  refine ⟨fun verdict => Password.problem?_eq_iff, fun hnone => ?_, fun xs c => register_asks_iff,
    register_of_refused login⟩
  rw [Password.length_encode_of_allowed hnone]
  cases Password.problem?_eq_iff.1 hnone with
  | allowed hfits => exact hfits.2

/-- Six characters are too few though they take twelve bytes, a foreign one counts before a digit
that is missing, 72 characters can be allowed, and a blank too many in the repetition is refused. -/
theorem register_of_passwords :
    problem? "пароль" = some .tooShort ∧ problem? "password€" = some .invalidCharacters ∧
    (Text.Utf8.encode (String.ofList (List.replicate 71 'a' ++ ['1']))).length ≤ 72 ∧
    (register "root" "passw0rd" "passw0rd").Asks [] (.signUp "root" "passw0rd") ∧
    ∃ e, register "root" "passw0rd" "passw0rd " = .done (.error e) := by
  obtain ⟨hshort, -⟩ := register_by_policy "root" "пароль" "пароль"
  obtain ⟨hforeign, -⟩ := register_by_policy "root" "password€" ""
  obtain ⟨-, hbytes, -⟩ :=
    register_by_policy "root" (String.ofList (List.replicate 71 'a' ++ ['1'])) ""
  obtain ⟨-, -, hasks, -⟩ := register_by_policy "root" "passw0rd" "passw0rd"
  obtain ⟨-, -, -, hrefused⟩ := register_by_policy "root" "passw0rd" "passw0rd "
  exact ⟨(hshort _).2 (.tooShort (by decide)),
    (hforeign _).2 (.invalidCharacters (by decide) ⟨'€', by decide, by decide⟩),
    hbytes (by decide +kernel), (hasks _ _).2 ⟨⟨rfl, rfl⟩, rfl, by decide⟩, hrefused (by decide)⟩

end TokenConsole.Accounts
