import TokenConsole.Calendar.Rfc3339
import TokenConsole.Duration
import TokenConsole.Json.Value
import TokenConsole.Number.Reading
import TokenConsole.Text.Blank

/-!
# Durations and timestamps on the wire

The gateway writes a duration or a timestamp as seconds and nanoseconds, each of them a number or a
text, or as a single number or text.
-/
namespace TokenConsole.Gateway

open TokenConsole.Number

/-- A whole number that may be written as a text. -/
inductive Count where
  | number (n : Int)
  | text (s : String)
  deriving DecidableEq, Repr

namespace Count

/-- The number, if there is one in the signed 64-bit range. -/
def value? : Count → Option Int
  | .number n => some n
  | .text s => int64? (Text.trimChars s.toList)

def ofJson? : Json → Option Count
  | .number (.whole n) => (checkInt64 n).map .number
  | .string s => some (.text s)
  | _ => none

/-- A count that may be left out or null. -/
def ofField? : Option Json → Option (Option Count)
  | none => some none
  | some .null => some none
  | some v => (ofJson? v).map some

end Count

/-- Seconds and nanoseconds, each of them optional. -/
structure SecondsNanos where
  seconds : Option Count
  nanos : Option Count
  deriving DecidableEq, Repr

namespace SecondsNanos

/-- A part that is left out is zero. -/
def part? : Option Count → Option Int
  | none => some 0
  | some c => c.value?

def parts? (d : SecondsNanos) : Option (Int × Int) := do
  let s ← part? d.seconds
  let n ← part? d.nanos
  return (s, n)

/-- The member under a key: absent, there, or refused because it is repeated. -/
def member? (ms : List (String × Json)) (key : String) : Option (Option Json) :=
  match ms.filter (·.1 == key) with
  | [] => some none
  | [(_, v)] => some (some v)
  | _ => none

/-- Any object will do, and any array of at most two items. -/
def ofJson? : Json → Option SecondsNanos
  | .object ms => do
    let s ← (member? ms "seconds").bind Count.ofField?
    let n ← (member? ms "nanos").bind Count.ofField?
    return ⟨s, n⟩
  | .array vs =>
    if 2 < vs.length then none
    else do
      let s ← Count.ofField? vs[0]?
      let n ← Count.ofField? vs[1]?
      return ⟨s, n⟩
  | _ => none

end SecondsNanos

/-- How long a token lives. -/
inductive Ttl where
  | duration (d : SecondsNanos)
  | seconds (n : Int)
  /-- Text that is ready to be shown, or a number of seconds followed by `s`. -/
  | text (s : String)
  deriving DecidableEq, Repr

namespace Ttl

/-- The number of seconds in a text such as `3600s`. -/
def secondsOfText? (s : String) : Option Int :=
  match s.toList.reverse with
  | 's' :: r => (readFinite? r.reverse).map fun x => clampInt64 x.truncate
  | _ => none

def human : Ttl → String
  | .duration d =>
    match d.parts? with
    | some (s, n) => Duration.human s n
    | none => ""
  | .seconds n => Duration.human n 0
  | .text s =>
    match secondsOfText? s with
    | some n => Duration.human n 0
    | none => s

def ofJson? (v : Json) : Option Ttl :=
  match SecondsNanos.ofJson? v with
  | some d => some (.duration d)
  | none =>
    match v with
    | .number (.whole n) => (checkInt64 n).map .seconds
    | .string s => some (.text s)
    | _ => none

end Ttl

/-- A moment in time. -/
inductive Timestamp where
  | parts (t : SecondsNanos)
  | rfc3339 (s : String)
  deriving DecidableEq, Repr

namespace Timestamp

/-- The moment, if it has a date. -/
def moment? : Timestamp → Option Calendar.Moment
  | .parts t => t.parts?.bind fun (s, n) => Calendar.Moment.ofParts? s n
  | .rfc3339 s => Calendar.Rfc3339.read? s.toList

def ofJson? (v : Json) : Option Timestamp :=
  match SecondsNanos.ofJson? v with
  | some t => some (.parts t)
  | none =>
    match v with
    | .string s => some (.rfc3339 s)
    | _ => none

end Timestamp

end TokenConsole.Gateway
