import TokenConsole.Calendar.Moment
import TokenConsole.Proofs.Number.Decimal

/-!
# Moments given in parts

The seconds and the nanoseconds of a moment may each be negative, and may cancel. Two checks against
the signed 64-bit range stand before the one against the calendar. Neither of them decides: there is
a date if and only if the millisecond, taken in the unbounded integers, has one.
-/
namespace TokenConsole.Calendar

open TokenConsole.Number

/-- The milliseconds of the calendar: 524286 whole years. -/
def HasDate (millis : Int) : Prop := -8334601228800000 ≤ millis ∧ millis ≤ 8210266876799999

instance (millis : Int) : Decidable (HasDate millis) :=
  inferInstanceAs (Decidable (-8334601228800000 ≤ millis ∧ millis ≤ 8210266876799999))

example : -8334601228800000 = Day.number ⟨-262143, 1, 1⟩ * 86400000 ∧
    8210266876799999 + 1 = Day.number ⟨262143, 1, 1⟩ * 86400000 := by decide

namespace Moment

/-- A moment outside of leap seconds that lies `millis` milliseconds after the start of 1970, and
not a nanosecond more. -/
structure IsAt (m : Moment) (millis : Int) : Prop where
  total : m.seconds * 1000000000 + m.nanos = millis * 1000000
  nanos_lt : m.nanos < 1000000000

variable {m m' : Moment} {millis seconds nanos : Int}

theorem IsAt.unique (h : m.IsAt millis) (h' : m'.IsAt millis) : m = m' := by
  obtain ⟨htotal, hnanos⟩ := h
  obtain ⟨htotal', hnanos'⟩ := h'
  cases m
  cases m'
  dsimp only at *
  rw [mk.injEq]
  omega

theorem isAt_ofMillis (millis : Int) :
    IsAt ⟨millis / 1000, (millis % 1000).toNat * 1000000⟩ millis := by
  constructor
  · dsimp only
    omega
  · dsimp only
    omega

theorem ofMillis?_eq_some_iff : ofMillis? millis = some m ↔ HasDate millis ∧ m.IsAt millis := by
  have hat := isAt_ofMillis millis
  rw [ofMillis?]
  split
  · next hdate =>
    rw [Option.some.injEq]
    exact ⟨fun hm => hm ▸ ⟨hdate, hat⟩, fun hm => hat.unique hm.2⟩
  · next hdate => exact ⟨nofun, fun hm => absurd hm.1 hdate⟩

theorem ofMillis?_eq_none_iff : ofMillis? millis = none ↔ ¬HasDate millis := by
  rw [ofMillis?]
  split
  · next hdate => exact ⟨nofun, fun h => absurd hdate h⟩
  · next hdate => exact ⟨fun _ => hdate, fun _ => rfl⟩

/-- A date is far from the limits of 64 bits, and nanoseconds that fit into them make up less than
300 years: the seconds alone fit as well. -/
theorem inInt64_of_hasDate (hnanos : InInt64 nanos)
    (hdate : HasDate (seconds * 1000 + nanos / 1000000)) :
    InInt64 (seconds * 1000) ∧ InInt64 (seconds * 1000 + nanos / 1000000) := by
  unfold InInt64 minInt64 maxInt64 at *
  unfold HasDate at hdate
  omega

theorem ofParts?_eq_ofMillis? (hnanos : InInt64 nanos) (seconds : Int) :
    ofParts? seconds nanos = ofMillis? (seconds * 1000 + nanos / 1000000) := by
  have hbind : ofParts? seconds nanos = (checkInt64 (seconds * 1000)).bind fun millis =>
      (checkInt64 (millis + nanos / 1000000)).bind ofMillis? := rfl
  rw [hbind]
  by_cases hdate : HasDate (seconds * 1000 + nanos / 1000000)
  · obtain ⟨hseconds, hmillis⟩ := inInt64_of_hasDate hnanos hdate
    rw [checkInt64_eq_some_iff.2 ⟨hseconds, rfl⟩, Option.bind_some,
      checkInt64_eq_some_iff.2 ⟨hmillis, rfl⟩, Option.bind_some]
  · -- whatever the checks say, there is no date
    rw [ofMillis?_eq_none_iff.2 hdate, Option.bind_eq_none_iff]
    intro a ha
    rw [Option.bind_eq_none_iff]
    intro b hb
    obtain ⟨-, rfl⟩ := checkInt64_eq_some_iff.1 ha
    obtain ⟨-, rfl⟩ := checkInt64_eq_some_iff.1 hb
    exact ofMillis?_eq_none_iff.2 hdate

/-- For all seconds and all nanoseconds of 64 bits: the date is the one whose milliseconds since the
start of 1970 are a thousand times the seconds and the whole milliseconds of the nanoseconds,
rounded down; there is none only if these milliseconds are not of the calendar. -/
theorem dated_by_exact_millis (hnanos : InInt64 nanos) (seconds : Int) :
    (∀ m, ofParts? seconds nanos = some m ↔
      HasDate (1000 * seconds + nanos / 1000000) ∧ m.IsAt (1000 * seconds + nanos / 1000000)) ∧
    (ofParts? seconds nanos = none ↔ ¬HasDate (1000 * seconds + nanos / 1000000)) := by
  rw [ofParts?_eq_ofMillis? hnanos, Int.mul_comm seconds]
  exact ⟨fun m => ofMillis?_eq_some_iff, ofMillis?_eq_none_iff⟩

/-- The seconds alone are beyond the calendar; the nanoseconds lead back to its last millisecond,
and one nanosecond more to none. -/
theorem dated_by_cancelling : InInt64 (-9223372036000000001) ∧ ¬HasDate (1000 * 8219490248836) ∧
    ofParts? 8219490248836 (-9223372036000000001) = some ⟨8210266876799, 999000000⟩ ∧
    InInt64 (-9223372036000000000) ∧ ofParts? 8219490248836 (-9223372036000000000) = none := by
  have hbefore : InInt64 (-9223372036000000001) := by decide
  have hafter : InInt64 (-9223372036000000000) := by decide
  refine ⟨hbefore, by decide, ?_, hafter, ?_⟩
  · exact ((dated_by_exact_millis hbefore 8219490248836).1 _).2 ⟨by decide, by decide, by decide⟩
  · exact (dated_by_exact_millis hafter 8219490248836).2.2 (by decide)

end Moment

end TokenConsole.Calendar
