import TokenConsole.Number.Whole

/-!
# Logging

Which messages are logged. A message has a level and a target, the part of the program that it
comes from; targets of noisy libraries are left out whatever their level.
-/
namespace TokenConsole.Log

/-- The levels, the most urgent first. -/
inductive Level where
  | error
  | warn
  | info
  | debug
  | trace
  deriving DecidableEq, Repr

namespace Level

def all : List Level := [.error, .warn, .info, .debug, .trace]

/-- How far down a level is. -/
def depth : Level → Nat
  | .error => 1
  | .warn => 2
  | .info => 3
  | .debug => 4
  | .trace => 5

def name : Level → String
  | .error => "error"
  | .warn => "warn"
  | .info => "info"
  | .debug => "debug"
  | .trace => "trace"

end Level

/-- The least urgent level that is logged; none when nothing is. -/
abbrev Filter := Option Level

namespace Filter

def name : Filter → String
  | none => "off"
  | some l => l.name

def all : List Filter := none :: Level.all.map some

/-- A numeral stands for that many levels. -/
def ofNumeral? (s : String) : Option Filter :=
  (Number.nat64? s.toList).bind fun n => all[n]?

/-- Reads a filter: a name, letter case apart, or a number. Nothing at all stands for errors. -/
def read? (s : String) : Option Filter :=
  if s = "" then some (some .error)
  else
    let small := s.toList.map Char.toLower
    match all.find? fun f => f.name.toList = small with
    | some f => some f
    | none => ofNumeral? s

def allows (f : Filter) (l : Level) : Bool :=
  match f with
  | none => false
  | some last => l.depth ≤ last.depth

end Filter

/-- How the targets begin that are never logged. -/
def ignoredTargets : List String := [
  "iced_wgpu", "iced_winit", "iced_graphics", "iced_runtime", "iced_core", "iced_tiny_skia",
  "wgpu_core", "wgpu_hal", "naga", "winit", "mio", "cosmic_text", "polling", "calloop",
  "async_io", "sctk", "rustls", "hyper", "hyper_util", "reqwest", "tokio"]

def isIgnored (target : String) : Bool :=
  ignoredTargets.any fun t => t.toList.isPrefixOf target.toList

/-- Whether a message is logged. -/
def writes (f : Filter) (target : String) (l : Level) : Bool := !isIgnored target && f.allows l

end TokenConsole.Log
