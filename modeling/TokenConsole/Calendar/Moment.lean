import TokenConsole.Number.Whole

/-!
# Moments and their dates

A moment is a number of seconds since the start of 1970 and the nanoseconds after them. Its date is
that of the proleptic Gregorian calendar in the time zone of the machine.
-/
namespace TokenConsole.Calendar

open TokenConsole.Number

/-- A moment of UTC. During a leap second `nanos` is a billion or more and the seconds stand
still. -/
structure Moment where
  seconds : Int
  nanos : Nat
  deriving DecidableEq, Repr

/-- A day of the Gregorian calendar. -/
structure Day where
  year : Int
  month : Nat
  day : Nat
  deriving DecidableEq, Repr

/-- The first and the last millisecond that has a date. -/
def firstMilli : Int := -8334601228800000

def lastMilli : Int := 8210266876799999

/-- The moment that many milliseconds after the start of 1970, if it has a date. -/
def Moment.ofMillis? (millis : Int) : Option Moment :=
  if firstMilli ≤ millis ∧ millis ≤ lastMilli then
    some ⟨millis / 1000, (millis % 1000).toNat * 1000000⟩
  else none

/-- The moment given as seconds and nanoseconds, cut to the millisecond. Each step has to stay in
the signed 64-bit range. -/
def Moment.ofParts? (seconds nanos : Int) : Option Moment := do
  let millis ← checkInt64 (seconds * 1000)
  let millis ← checkInt64 (millis + nanos / 1000000)
  Moment.ofMillis? millis

/-- The day that is `days` after the first day of 1970. Years are counted from March in eras of
400, so that a leap day is the last day of its year. -/
def Day.ofNumber (days : Int) : Day :=
  let z := days + 719468
  let era := z / 146097
  let doe := (z % 146097).toNat
  let yoe := (doe - doe / 1460 + doe / 36524 - doe / 146096) / 365
  let doy := doe - (365 * yoe + yoe / 4 - yoe / 100)
  let mp := (5 * doy + 2) / 153
  let month := if mp < 10 then mp + 3 else mp - 9
  let year : Int := yoe + era * 400
  ⟨if month ≤ 2 then year + 1 else year, month, doy - (153 * mp + 2) / 5 + 1⟩

/-- How many days after the first day of 1970 a day is. -/
def Day.number (d : Day) : Int :=
  let y := if d.month ≤ 2 then d.year - 1 else d.year
  let era := y / 400
  let yoe := (y % 400).toNat
  let mp := if 2 < d.month then d.month - 3 else d.month + 9
  let doy := (153 * mp + 2) / 5 + d.day - 1
  let doe := yoe * 365 + yoe / 4 - yoe / 100 + doy
  era * 146097 + doe - 719468

def isLeapYear (y : Int) : Bool := y % 4 = 0 && (y % 100 ≠ 0 || y % 400 = 0)

def daysInMonth (y : Int) (m : Nat) : Nat :=
  if m = 2 then (if isLeapYear y then 29 else 28)
  else if m = 4 ∨ m = 6 ∨ m = 9 ∨ m = 11 then 30
  else 31

def Day.isValid (d : Day) : Bool :=
  1 ≤ d.month && d.month ≤ 12 && 1 ≤ d.day && d.day ≤ daysInMonth d.year d.month

/-- A year takes four digits or more, with a sign outside of 0 to 9999. -/
def yearText (y : Int) : String :=
  let ds := padded 4 y.natAbs
  if y < 0 then "-" ++ ds else if 9999 < y then "+" ++ ds else ds

/-- The time zone of the machine: how many seconds its clocks are ahead of UTC at a moment. It stays
the same while the console runs. -/
class Zone where
  offset : Moment → Int

/-- The zone whose clocks are always that many seconds ahead of UTC. -/
@[reducible] def Zone.ahead (seconds : Int) : Zone := ⟨fun _ => seconds⟩

/-- The clocks of a machine that has no zone set show UTC. Runs on fixed inputs are in this zone
where they name no other. -/
instance (priority := low) Zone.utc : Zone := .ahead 0

/-- Day, month and year, then the time of day, as the clocks of the machine show them. A leap second
shows one second more than the second before it. -/
def Moment.text [Zone] (m : Moment) : String :=
  let shown := m.seconds + Zone.offset m
  let d := Day.ofNumber (shown / 86400)
  let t := (shown % 86400).toNat
  let second := t % 60 + m.nanos / 1000000000
  s!"{padded 2 d.day}.{padded 2 d.month}.{yearText d.year} " ++
    s!"{padded 2 (t / 3600)}:{padded 2 (t % 3600 / 60)}:{padded 2 second}"

end TokenConsole.Calendar
