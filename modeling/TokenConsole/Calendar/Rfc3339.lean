import TokenConsole.Calendar.Moment

/-!
# Timestamps as text

The profile of RFC 3339: a date, a time of day with an optional fraction, and an offset from UTC.
-/
namespace TokenConsole.Calendar.Rfc3339

open TokenConsole.Calendar TokenConsole.Number

/-- A number of exactly `count` digits and what follows it. -/
def digits (count : Nat) (s : List Char) : Option (Nat × List Char) :=
  let ds := s.take count
  if ds.length = count ∧ ds.all Char.isDigit then some (ofDigits ds, s.drop count) else none

/-- What follows the character `c`. -/
def expect (c : Char) : List Char → Option (List Char)
  | d :: rest => if d = c then some rest else none
  | [] => none

/-- The nanoseconds of a fraction, if a point follows. Digits beyond the ninth do not count. -/
def fraction (s : List Char) : Option (Nat × List Char) :=
  match s with
  | '.' :: rest =>
    let ds := rest.takeWhile Char.isDigit
    if ds = [] then none
    else
      let nine := ds.take 9
      some (ofDigits nine * tenTo (9 - nine.length), rest.dropWhile Char.isDigit)
  | _ => some (0, s)

/-- The longest offset, in minutes. -/
def maxOffset : Nat := 1439

/-- The seconds that local time is ahead of UTC, and what follows. -/
def offset (s : List Char) : Option (Int × List Char) :=
  match s with
  | [] => none
  | c :: rest =>
    if c = 'Z' ∨ c = 'z' then some (0, rest)
    else if c = '+' ∨ c = '-' ∨ c = '\u2212' then do
      let (hours, rest) ← digits 2 rest
      let rest ← expect ':' rest
      let (minutes, rest) ← digits 2 rest
      let total := hours * 60 + minutes
      if 59 < minutes ∨ maxOffset < total then none
      else
        let seconds : Int := total * 60
        return (if c = '+' then seconds else -seconds, rest)
    else none

/-- The separator of date and time. -/
def separator : List Char → Option (List Char)
  | c :: rest => if c = 'T' ∨ c = 't' ∨ c = ' ' then some rest else none
  | [] => none

/-- The moment that a timestamp names. The sixtieth second of a minute is a leap second. -/
def read? (s : List Char) : Option Moment := do
  let (year, s) ← digits 4 s
  let s ← expect '-' s
  let (month, s) ← digits 2 s
  let s ← expect '-' s
  let (day, s) ← digits 2 s
  let s ← separator s
  let (hour, s) ← digits 2 s
  let s ← expect ':' s
  let (minute, s) ← digits 2 s
  let s ← expect ':' s
  let (second, s) ← digits 2 s
  let (nanos, s) ← fraction s
  let (ahead, s) ← offset s
  let date : Day := ⟨year, month, day⟩
  if s ≠ [] ∨ !date.isValid ∨ 23 < hour ∨ 59 < minute ∨ 60 < second then none
  else
    let leap := second / 60
    let time := hour * 3600 + minute * 60 + second - leap
    return ⟨date.number * 86400 + time - ahead, nanos + leap * 1000000000⟩

end TokenConsole.Calendar.Rfc3339
