import TokenConsole.Duration
import TokenConsole.Proofs.Number.Decimal

/-!
# What a duration is shown as

The numbers that are shown can be read back. Up to an hour they make up the whole duration, from an
hour on its whole minutes: two such durations look the same if and only if they have the same whole
minutes.
-/
namespace TokenConsole.Duration

open TokenConsole.Number

/-- The forms in which a duration is shown. -/
inductive Shown where
  | hours (hours minutes : Nat)
  | minutes (minutes seconds : Nat)
  | seconds (seconds : Nat)
  deriving DecidableEq, Repr

/-- A number at the start of a text, and what follows it. -/
def number? (s : List Char) : Option (Nat × List Char) :=
  (numeral? (s.takeWhile Char.isDigit)).map fun n => (n, s.dropWhile Char.isDigit)

namespace Shown

def text : Shown → String
  | hours h m => s!"{h}h {m}m"
  | minutes m s => s!"{m}m {s}s"
  | seconds s => s!"{s}s"

/-- How many seconds the numbers make up. -/
def total : Shown → Nat
  | hours h m => 3600 * h + 60 * m
  | minutes m s => 60 * m + s
  | seconds s => s

/-- The first number is not zero, and no number makes up one of the next larger unit. -/
def Proper : Shown → Prop
  | hours h m => 1 ≤ h ∧ m < 60
  | minutes m s => 1 ≤ m ∧ m < 60 ∧ s < 60
  | seconds s => 1 ≤ s ∧ s < 60

/-- Reads the numbers of a text and their units. -/
def read? (text : String) : Option Shown := do
  let (first, rest) ← number? text.toList
  match rest with
  | ['s'] => some (.seconds first)
  | unit :: ' ' :: rest =>
    let (second, rest) ← number? rest
    match unit, rest with
    | 'h', ['m'] => some (.hours first second)
    | 'm', ['s'] => some (.minutes first second)
    | _, _ => none
  | _ => none

/-- The form for a number of seconds. -/
def ofTotal (total : Nat) : Shown :=
  if 3600 ≤ total then .hours (total / 3600) (total % 3600 / 60)
  else if 60 ≤ total then .minutes (total / 60) (total % 60)
  else .seconds total

end Shown

/-! ### Reading what is written -/

/-- A number ends where its unit follows. -/
theorem number?_unit {unit : Char} (h : unit.isDigit = false) (n : Nat) (rest : List Char) :
    number? ((toString n).toList ++ unit :: rest) = some (n, unit :: rest) := by
  have htext : (toString n).toList = Nat.toDigits 10 n := String.toList_ofList
  have hdigits : ∀ c ∈ Nat.toDigits 10 n, c.isDigit = true := fun _ hc => isDigit_of_mem_toDigits hc
  have hunit : ∀ c ∈ (unit :: rest).head?, c.isDigit = false := by
    rintro c ⟨⟩
    exact h
  rw [htext, number?, takeWhile_digits hdigits hunit, dropWhile_digits hdigits hunit,
    numeral?_toDigits, Option.map_some]

namespace Shown

theorem read?_text (x : Shown) : read? x.text = some x := by
  have hmark : ∀ s : String, toString s = s := fun _ => rfl
  cases x with
  | hours h m =>
    have htext : (hours h m).text.toList =
        (toString h).toList ++ 'h' :: ' ' :: ((toString m).toList ++ ['m']) := by
      simp [text, hmark]
    simp only [read?, htext, number?_unit (show 'h'.isDigit = false by decide),
      number?_unit (show 'm'.isDigit = false by decide), Option.bind_eq_bind, Option.bind_some]
  | minutes m s =>
    have htext : (minutes m s).text.toList =
        (toString m).toList ++ 'm' :: ' ' :: ((toString s).toList ++ ['s']) := by
      simp [text, hmark]
    simp only [read?, htext, number?_unit (show 'm'.isDigit = false by decide),
      number?_unit (show 's'.isDigit = false by decide), Option.bind_eq_bind, Option.bind_some]
  | seconds s =>
    have htext : (seconds s).text.toList = (toString s).toList ++ ['s'] := by
      simp [text, hmark]
    simp only [read?, htext, number?_unit (show 's'.isDigit = false by decide),
      Option.bind_eq_bind, Option.bind_some]

theorem text_inj {x y : Shown} (h : x.text = y.text) : x = y := by
  rw [← Option.some_inj, ← read?_text, h, read?_text]

theorem text_ne_empty (x : Shown) : x.text ≠ "" := by
  intro h
  have hread := read?_text x
  rw [h] at hread
  cases hread

theorem proper_ofTotal {total : Nat} (h : 0 < total) : (ofTotal total).Proper := by
  unfold ofTotal
  split
  · exact ⟨by omega, by omega⟩
  split
  · exact ⟨by omega, by omega, by omega⟩
  · exact ⟨h, by omega⟩

/-- From an hour on, the seconds beyond the minute are left out. -/
theorem total_ofTotal (total : Nat) :
    (ofTotal total).total = if total < 3600 then total else total / 60 * 60 := by
  unfold ofTotal
  split
  · rw [if_neg (by omega), Shown.total]
    omega
  split
  · rw [if_pos (by omega), Shown.total]
    omega
  · rw [if_pos (by omega), Shown.total]

theorem ofTotal_eq_iff {a b : Nat} (ha : 3600 ≤ a) (hb : 3600 ≤ b) :
    ofTotal a = ofTotal b ↔ a / 60 = b / 60 := by
  rw [ofTotal, if_pos ha, ofTotal, if_pos hb, hours.injEq]
  omega

end Shown

/-! ### What is written -/

theorem text_of_pos {total : Nat} (h : 0 < total) : text total = (Shown.ofTotal total).text := by
  have hhours : (total : Int) / 3600 = (total / 3600 : Nat) := rfl
  have hminutes : (total : Int) % 3600 / 60 = (total % 3600 / 60 : Nat) := rfl
  have hseconds : (total : Int) % 60 = (total % 60 : Nat) := rfl
  unfold text Shown.ofTotal
  dsimp only
  rw [if_neg (by omega), hhours, hminutes, hseconds]
  rcases Nat.lt_or_ge total 3600 with hshort | hlong
  · rw [if_neg (Nat.not_le_of_gt hshort), if_neg (by omega), Nat.mod_eq_of_lt hshort]
    rcases Nat.lt_or_ge total 60 with hbrief | hminute
    · rw [if_neg (Nat.not_le_of_gt hbrief), if_neg (by omega), Nat.mod_eq_of_lt hbrief]
      rfl
    · rw [if_pos hminute, if_pos (by omega)]
      rfl
  · rw [if_pos hlong, if_pos (by omega)]
    rfl

theorem text_eq_iff {a b : Nat} (ha : 3600 ≤ a) (hb : 3600 ≤ b) :
    text a = text b ↔ a / 60 = b / 60 := by
  rw [text_of_pos (by omega), text_of_pos (by omega), ← Shown.ofTotal_eq_iff ha hb]
  exact ⟨Shown.text_inj, congrArg Shown.text⟩

/-! ### Seconds with nanoseconds -/

/-- The whole seconds of a duration given as seconds and nanoseconds, which may cancel. No more are
counted than fit into 64 bits with a sign. -/
def wholeSeconds (seconds nanos : Int) : Int :=
  min (seconds + nanos / 1000000000) 9223372036854775807

/-- The seconds that a text shows; an empty text shows none. -/
def shownSeconds (text : String) : Nat := (Shown.read? text).elim 0 Shown.total

variable (seconds nanos : Int)

theorem human_eq : human seconds nanos =
    if 0 < wholeSeconds seconds nanos then
      (Shown.ofTotal (wholeSeconds seconds nanos).toNat).text
    else "" := by
  unfold human totalSeconds clampInt64 minInt64 maxInt64
  change text (max _ (wholeSeconds seconds nanos)) = _
  generalize wholeSeconds seconds nanos = total
  split
  · next hpos =>
    obtain ⟨n, rfl⟩ := Int.eq_ofNat_of_zero_le (Int.le_of_lt hpos)
    rw [Int.max_eq_right (by omega), Int.toNat_natCast]
    exact text_of_pos (Int.natCast_pos.1 hpos)
  · next hnone =>
    -- nothing is left, whether or not the sum was below the range
    rw [text]
    exact if_pos (by omega)

/-- The more seconds there are, the more are shown. -/
theorem shownSeconds_mono {seconds nanos seconds' nanos' : Int}
    (h : wholeSeconds seconds nanos ≤ wholeSeconds seconds' nanos') :
    shownSeconds (human seconds nanos) ≤ shownSeconds (human seconds' nanos') := by
  rw [human_eq, human_eq]
  generalize wholeSeconds seconds nanos = total at h ⊢
  generalize wholeSeconds seconds' nanos' = total' at h ⊢
  split
  · next hpos =>
    rw [if_pos (Int.lt_of_lt_of_le hpos h), shownSeconds, shownSeconds, Shown.read?_text,
      Shown.read?_text, Option.elim_some, Option.elim_some, Shown.total_ofTotal,
      Shown.total_ofTotal]
    split <;> split <;> omega
  · next hnone =>
    have hempty : shownSeconds "" = 0 := by decide
    exact hempty ▸ Nat.zero_le _

/-- For all seconds and nanoseconds: the text is empty if and only if no whole second is left. Else
it has one of the three forms, with its first number not zero and the others in their range, and
the numbers read back make up the whole seconds below an hour and the whole minutes from then on.
Durations with the same whole seconds show the same text, and a longer one never shows less. -/
theorem human_reads_back :
    (human seconds nanos = "" ↔ wholeSeconds seconds nanos ≤ 0) ∧
    (0 < wholeSeconds seconds nanos → ∃ x : Shown,
      human seconds nanos = x.text ∧ x.Proper ∧ Shown.read? (human seconds nanos) = some x ∧
      (x.total : Int) = if wholeSeconds seconds nanos < 3600 then wholeSeconds seconds nanos
        else wholeSeconds seconds nanos / 60 * 60) ∧
    ∀ seconds' nanos',
      (wholeSeconds seconds nanos = wholeSeconds seconds' nanos' →
        human seconds nanos = human seconds' nanos') ∧
      (wholeSeconds seconds nanos ≤ wholeSeconds seconds' nanos' →
        shownSeconds (human seconds nanos) ≤ shownSeconds (human seconds' nanos')) := by
  refine ⟨?_, fun hpos => ?_, fun seconds' nanos' => ⟨fun hsame => ?_, shownSeconds_mono⟩⟩
  · rw [human_eq]
    split
    · next hpos => exact iff_of_false (Shown.text_ne_empty _) (Int.not_le.2 hpos)
    · next hnone => exact iff_of_true rfl (Int.not_lt.1 hnone)
  · have htext := human_eq seconds nanos
    rw [if_pos hpos] at htext
    refine ⟨_, htext, Shown.proper_ofTotal (by omega), ?_, ?_⟩
    · rw [htext, Shown.read?_text]
    · rw [Shown.total_ofTotal]
      split <;> split <;> omega
  · rw [human_eq, human_eq, hsame]

/-- The longest duration, whose nanoseconds are more than are counted: its text shows all but the
seconds beyond the minute. -/
theorem longest_reads_back :
    human 9223372036854775807 9223372036854775807 = "2562047788015215h 30m" ∧
    (∃ x : Shown, "2562047788015215h 30m" = x.text ∧ x.Proper ∧ x.total = 9223372036854775800) ∧
    human 9223372036854775807 0 = "2562047788015215h 30m" := by
  have htext : human 9223372036854775807 9223372036854775807 = "2562047788015215h 30m" := by
    decide +kernel
  obtain ⟨-, hform, hothers⟩ := human_reads_back 9223372036854775807 9223372036854775807
  obtain ⟨x, hx, hproper, -, htotal⟩ := hform (by decide)
  have hvalue : x.total = 9223372036854775800 := Int.ofNat_inj.1 htotal
  exact ⟨htext, ⟨x, htext ▸ hx, hproper, hvalue⟩, htext ▸ ((hothers _ 0).1 (by decide)).symm⟩

end TokenConsole.Duration
