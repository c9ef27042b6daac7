import TokenConsole.Number.Whole

/-!
# Durations for people

A duration is shown in its two largest units down to the second: hours and minutes, minutes and
seconds, or seconds alone.
-/
namespace TokenConsole.Duration

open TokenConsole.Number

/-- The whole seconds of a duration given as seconds and nanoseconds, which may cancel. -/
def totalSeconds (seconds nanos : Int) : Int := clampInt64 (seconds + nanos / 1000000000)

/-- The text of a number of seconds, empty when nothing is left. -/
def text (total : Int) : String :=
  let hours := total / 3600
  let minutes := total % 3600 / 60
  let seconds := total % 60
  if total ≤ 0 then ""
  else if 0 < hours then s!"{hours}h {minutes}m"
  else if 0 < minutes then s!"{minutes}m {seconds}s"
  else s!"{seconds}s"

def human (seconds nanos : Int) : String := text (totalSeconds seconds nanos)

end TokenConsole.Duration
