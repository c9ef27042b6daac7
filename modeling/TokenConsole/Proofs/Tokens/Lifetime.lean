import TokenConsole.Tokens

/-!
# The lifetime of a token

What the two fields for the lifetime say together. A choice that is a number is that many seconds;
`custom` leaves it to the other field, in which a positive number has to stand.
-/
namespace TokenConsole

namespace Number

/-- The characters write the number in decimal digits, with a plus sign in front or without. -/
def Writes (s : List Char) (n : Nat) : Prop :=
  ∃ ds, (s = ds ∨ s = '+' :: ds) ∧ ds ≠ [] ∧ (∀ c ∈ ds, c.isDigit = true) ∧ ofDigits ds = n

theorem numeral?_eq_some_iff {ds : List Char} {n : Nat} :
    numeral? ds = some n ↔ ds ≠ [] ∧ (∀ c ∈ ds, c.isDigit = true) ∧ ofDigits ds = n := by
  rw [numeral?]
  split
  · next h =>
    rw [Option.some.injEq]
    exact ⟨fun he => ⟨h.1, List.all_eq_true.1 h.2, he⟩, fun he => he.2.2⟩
  · next h =>
    constructor
    · intro he
      cases he
    · intro he
      exact absurd ⟨he.1, List.all_eq_true.2 he.2.1⟩ h

theorem writes_iff {s : List Char} {n : Nat} :
    Writes s n ↔ numeral? (match s with | '+' :: r => r | _ => s) = some n := by
  rw [numeral?_eq_some_iff]
  split
  · next r =>
    constructor
    · rintro ⟨ds, h | h, hne, hdigits, hvalue⟩
      · exact absurd (hdigits '+' (h ▸ List.mem_cons_self)) (by decide)
      · cases h
        exact ⟨hne, hdigits, hvalue⟩
    · exact fun h => ⟨r, .inr rfl, h⟩
  · next hs =>
    constructor
    · rintro ⟨ds, h | h, hrest⟩
      · exact h ▸ hrest
      · exact absurd h (hs ds)
    · exact fun h => ⟨s, .inl rfl, h⟩

theorem nat64?_eq_some_iff {s : List Char} {n : Nat} :
    nat64? s = some n ↔ Writes s n ∧ n ≤ maxNat64 :=
  Option.filter_eq_some_iff.trans (and_congr writes_iff.symm decide_eq_true_iff)

end Number

namespace Tokens

/-- The lifetime by the choice and the text for the seconds. -/
def lifetime? (choice custom : String) : Option Nat :=
  if Text.trim choice = customTtl then
    (Number.nat64? (Text.trim custom).toList).filter (0 < ·)
  else Number.nat64? (Text.trim choice).toList

theorem ttl?_eq {p : Payload} {choice custom : String} (hchoice : p.get? "ttl_select" = some choice)
    (hcustom : p.get? "ttl_custom" = some custom) : ttl? p = lifetime? choice custom := by
  simp only [ttl?, hchoice, hcustom, Option.bind_eq_bind, Option.bind_some, lifetime?]
  rw [Text.trim, String.toList_ofList, Text.trim, String.toList_ofList]

/-- The choices that are numbers, with the seconds that they stand for. -/
def fixedLifetimes : List (String × Nat) := [("300", 300), ("3600", 3600), ("86400", 86400)]

/-- The choice and the text for the seconds, if there is one, ask for a lifetime of `n` seconds. -/
def LivesFor (choice : String) (custom : Option String) (n : Nat) : Prop :=
  fixedLifetimes.lookup choice = some n ∨
    choice = customTtl ∧ ∃ text, custom = some text ∧ Number.Writes (Text.trim text).toList n ∧
      0 < n ∧ n ≤ Number.maxNat64

/-- Of the choices only the numbers read as numbers. -/
theorem lifetime?_of_choice {choice : String} (h : choice ∈ ttlChoices.map (·.value))
    (custom : String) : lifetime? choice custom = if choice = customTtl then
      (Number.nat64? (Text.trim custom).toList).filter (0 < ·)
      else fixedLifetimes.lookup choice := by
  have hall : ∀ c ∈ ttlChoices.map (·.value), Text.trim c = c ∧
      Number.nat64? c.toList = fixedLifetimes.lookup c := by decide
  obtain ⟨htrim, hread⟩ := hall choice h
  rw [lifetime?, htrim, hread]

/-- The lifetime that is asked for. Without a text there is none of the custom kind. -/
theorem lifetime?_eq_some_iff {choice : String} (h : choice ∈ ttlChoices.map (·.value))
    (custom : Option String) (n : Nat) :
    lifetime? choice (custom.getD "") = some n ↔ LivesFor choice custom n := by
  rw [lifetime?_of_choice h, LivesFor]
  by_cases hc : choice = customTtl
  · subst hc
    have hnone : fixedLifetimes.lookup customTtl = none := by decide
    rw [if_pos rfl, hnone]
    cases custom with
    | none =>
      have hblank : (Number.nat64? (Text.trim "").toList).filter (0 < ·) = none := by decide
      rw [Option.getD_none, hblank]
      simp
    | some text =>
      rw [Option.getD_some, Option.filter_eq_some_iff, Number.nat64?_eq_some_iff, decide_eq_true_eq]
      constructor
      · exact fun ⟨⟨hw, hle⟩, hpos⟩ => .inr ⟨rfl, text, rfl, hw, hpos, hle⟩
      · rintro (he | ⟨-, text', he, hw, hpos, hle⟩)
        · cases he
        · cases he
          exact ⟨⟨hw, hle⟩, hpos⟩
  · rw [if_neg hc]
    constructor
    · exact .inl
    · rintro (he | ⟨he, -⟩)
      · exact he
      · exact absurd he hc

end Tokens

end TokenConsole
