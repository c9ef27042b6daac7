import TokenConsole.Password
import TokenConsole.Proofs.Text.Utf8

/-!
# The password policy, in its order

A password is too long, or too short, or has a character beyond ASCII, or lacks a letter or a digit,
and the first of these is its problem. Lengths count characters, and still an allowed password fits
in as many bytes.
-/
namespace TokenConsole.Password

variable {password : String} {verdict : Option Problem}

/-- A Latin letter without marks. -/
def IsLetter (c : Char) : Prop :=
  (65 ≤ c.toNat ∧ c.toNat ≤ 90) ∨ (97 ≤ c.toNat ∧ c.toNat ≤ 122)

def IsDigit (c : Char) : Prop := 48 ≤ c.toNat ∧ c.toNat ≤ 57

/-- From 8 to 72 characters. -/
def Fits (password : String) : Prop :=
  8 ≤ password.toList.length ∧ password.toList.length ≤ 72

instance (password : String) : Decidable (Fits password) :=
  inferInstanceAs (Decidable (8 ≤ password.toList.length ∧ password.toList.length ≤ 72))

/-- The verdicts on a password, each with all that it asks of the password. -/
inductive Judged (password : String) : Option Problem → Prop where
  | tooLong (h : 72 < password.toList.length) : Judged password (some .tooLong)
  | tooShort (h : password.toList.length < 8) : Judged password (some .tooShort)
  | invalidCharacters (hfits : Fits password) (h : ∃ c ∈ password.toList, 128 ≤ c.toNat) :
    Judged password (some .invalidCharacters)
  | missingLetterOrDigit (hfits : Fits password) (hascii : ∀ c ∈ password.toList, c.toNat < 128)
    (h : (∀ c ∈ password.toList, ¬IsLetter c) ∨ ∀ c ∈ password.toList, ¬IsDigit c) :
    Judged password (some .missingLetterOrDigit)
  | allowed (hfits : Fits password) (hascii : ∀ c ∈ password.toList, c.toNat < 128)
    (hletter : ∃ c ∈ password.toList, IsLetter c) (hdigit : ∃ c ∈ password.toList, IsDigit c) :
    Judged password none

theorem isUpper_iff {c : Char} : c.isUpper = true ↔ 65 ≤ c.toNat ∧ c.toNat ≤ 90 :=
  decide_eq_true_iff

theorem isLower_iff {c : Char} : c.isLower = true ↔ 97 ≤ c.toNat ∧ c.toNat ≤ 122 := by
  change (decide _ && decide _) = true ↔ _
  rw [Bool.and_eq_true, decide_eq_true_iff, decide_eq_true_iff]
  exact Iff.rfl

theorem isAlpha_iff {c : Char} : c.isAlpha = true ↔ IsLetter c := by
  change (c.isUpper || c.isLower) = true ↔ _
  rw [Bool.or_eq_true, isUpper_iff, isLower_iff, IsLetter]

theorem isDigit_iff {c : Char} : c.isDigit = true ↔ IsDigit c := by
  simp only [Char.isDigit, Bool.and_eq_true, decide_eq_true_iff, UInt32.le_iff_toNat_le,
    Char.toNat_val]
  exact Iff.rfl

theorem all_isAscii_iff : password.toList.all isAscii = true ↔
    ∀ c ∈ password.toList, c.toNat < 128 := by
  simp only [List.all_eq_true, isAscii, decide_eq_true_eq]

theorem mixed_iff : (password.toList.any Char.isAlpha && password.toList.any Char.isDigit) = true ↔
    (∃ c ∈ password.toList, IsLetter c) ∧ ∃ c ∈ password.toList, IsDigit c := by
  simp only [Bool.and_eq_true, List.any_eq_true, isAlpha_iff, isDigit_iff]

/-- Past the two checks of its length. -/
theorem problem?_of_fits (h : Fits password) : problem? password =
    if !password.toList.all isAscii then some .invalidCharacters
    else if !(password.toList.any Char.isAlpha && password.toList.any Char.isDigit) then
      some .missingLetterOrDigit
    else none := by
  rw [problem?, maxLength, minLength, if_neg (Nat.not_lt_of_le h.2), if_neg (Nat.not_lt_of_le h.1)]

theorem Judged.problem?_eq (h : Judged password verdict) : problem? password = verdict := by
  cases h with
  | tooLong h => exact if_pos h
  | tooShort h =>
    have hlong : ¬72 < password.toList.length := by omega
    rw [problem?, maxLength, minLength, if_neg hlong, if_pos h]
  | invalidCharacters hfits h =>
    obtain ⟨c, hc, hforeign⟩ := h
    have hall : password.toList.all isAscii = false := by
      rw [Bool.eq_false_iff, Ne, all_isAscii_iff]
      exact fun hascii => absurd (hascii c hc) (by omega)
    rw [problem?_of_fits hfits, hall, if_pos Bool.not_false]
  | missingLetterOrDigit hfits hascii h =>
    have hmixed :
        (password.toList.any Char.isAlpha && password.toList.any Char.isDigit) = false := by
      rw [Bool.eq_false_iff, Ne, mixed_iff]
      rintro ⟨⟨c, hc, hletter⟩, d, hd, hdigit⟩
      rcases h with hnone | hnone
      · exact hnone c hc hletter
      · exact hnone d hd hdigit
    rw [problem?_of_fits hfits, all_isAscii_iff.2 hascii, hmixed]
    rfl
  | allowed hfits hascii hletter hdigit =>
    rw [problem?_of_fits hfits, all_isAscii_iff.2 hascii, mixed_iff.2 ⟨hletter, hdigit⟩]
    rfl

/-- There is a verdict on every password. -/
theorem exists_judged (password : String) : ∃ verdict, Judged password verdict := by
  by_cases hlong : 72 < password.toList.length
  · exact ⟨_, .tooLong hlong⟩
  by_cases hshort : password.toList.length < 8
  · exact ⟨_, .tooShort hshort⟩
  have hfits : Fits password := ⟨by omega, by omega⟩
  by_cases hforeign : ∃ c ∈ password.toList, 128 ≤ c.toNat
  · exact ⟨_, .invalidCharacters hfits hforeign⟩
  have hascii : ∀ c ∈ password.toList, c.toNat < 128 := fun c hc =>
    Nat.lt_of_not_le fun hc' => hforeign ⟨c, hc, hc'⟩
  by_cases hletter : ∃ c ∈ password.toList, IsLetter c
  · by_cases hdigit : ∃ c ∈ password.toList, IsDigit c
    · exact ⟨_, .allowed hfits hascii hletter hdigit⟩
    · exact ⟨_, .missingLetterOrDigit hfits hascii
        (.inr fun c hc hc' => hdigit ⟨c, hc, hc'⟩)⟩
  · exact ⟨_, .missingLetterOrDigit hfits hascii (.inl fun c hc hc' => hletter ⟨c, hc, hc'⟩)⟩

theorem problem?_eq_iff : problem? password = verdict ↔ Judged password verdict := by
  refine ⟨?_, Judged.problem?_eq⟩
  rintro rfl
  obtain ⟨verdict, h⟩ := exists_judged password
  rwa [h.problem?_eq]

/-- An allowed password takes a byte for each character. -/
theorem length_encode_of_allowed (h : problem? password = none) :
    (Text.Utf8.encode password).length = password.toList.length := by
  cases problem?_eq_iff.1 h with
  | allowed hfits hascii hletter hdigit => exact Text.Utf8.length_encode_of_ascii hascii

end TokenConsole.Password
