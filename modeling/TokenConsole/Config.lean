import TokenConsole.Log
import TokenConsole.Text.Blank
import TokenConsole.Text.Utf8
import TokenConsole.Toast
import TokenConsole.Toml.Document
import TokenConsole.Url.Basic

/-!
# Configuration

What the configuration file may set, and how its settings join with those of the environment.
-/
namespace TokenConsole

structure Config where
  /-- Where the gateway is. -/
  apiBaseUrl : Option String
  logLevel : Option String
  /-- Logs in more detail, unless a level is set. -/
  debug : Option Bool
  /-- How long a toast stays on the screen, in milliseconds. -/
  toastTimeout : Option Nat
  deriving DecidableEq, Repr

namespace Config

inductive Fault where
  | invalidField (field reason : String)
  | notFound
  /-- The file cannot be read, is no text, or does not fit. -/
  | unreadable
  deriving DecidableEq, Repr

/-- The text of a fault; why a file cannot be read is not part of it. -/
def Fault.message : Fault → String
  | .invalidField field reason => s!"Config field {field} is invalid: {reason}"
  | .notFound => "Config file not found"
  | .unreadable => "Error while reading file"

def empty : Config := ⟨none, none, none, none⟩

/-- The level that a configuration sets. -/
def level (c : Config) : Except Fault Log.Filter :=
  match c.logLevel with
  | some "info" => .ok (some .info)
  | some "debug" => .ok (some .debug)
  | some "trace" => .ok (some .trace)
  | some other => .error (.invalidField "log_level" s!"Unknown value '{other}'")
  | none => .ok (some (if c.debug = some true then .debug else .info))

def toastMillis (c : Config) : Nat := c.toastTimeout.getD Toasts.defaultTimeout

/-- The value of a key, which has to be of one kind if it is there. -/
def setting? {α : Type} (ms : Toml.Members) (key : String) (read : Toml.Value → Option α) :
    Option (Option α) :=
  match ms.lookup key with
  | none => some none
  | some (.value v) => (read v).map some
  | some _ => none

def text? : Toml.Value → Option String
  | .text s => some s
  | _ => none

def flag? : Toml.Value → Option Bool
  | .scalar (.boolean b) => some b
  | _ => none

def count? : Toml.Value → Option Nat
  | .scalar (.integer n) => if 0 ≤ n ∧ n ≤ Number.maxNat64 then some n.toNat else none
  | _ => none

/-- The settings of a document. Keys that are not known are left alone. -/
def ofMembers? (ms : Toml.Members) : Option Config := do
  let apiBaseUrl ← setting? ms "api_base_url" text?
  let logLevel ← setting? ms "log_level" text?
  let debug ← setting? ms "debug" flag?
  let toastTimeout ← setting? ms "toast_timeout_ms" count?
  return { apiBaseUrl, logLevel, debug, toastTimeout }

/-- Reads the bytes of a file. Its level is looked at last. -/
def ofBytes (bytes : List UInt8) : Except Fault Config :=
  let config := (Text.Utf8.decode bytes).toOption.bind fun s => (Toml.read? s).bind ofMembers?
  match config with
  | none => .error .unreadable
  | some c => c.level.map fun _ => c

/-- What stands at the path of the configuration file. -/
inductive File where
  | missing
  | unreadable
  | bytes (content : List UInt8)

def ofFile : File → Except Fault Config
  | .missing => .error .notFound
  | .unreadable => .error .unreadable
  | .bytes content => ofBytes content

/-- Without a file nothing is set. -/
def load (f : File) : Except Fault Config :=
  match ofFile f with
  | .error .notFound => .ok empty
  | r => r

/-- The level that the program logs at. The environment wins. -/
def resolveLevel (environment : Option String) (c : Config) : Except Fault Log.Filter :=
  match environment with
  | none => c.level
  | some s =>
    match Log.Filter.read? s with
    | some f => .ok f
    | none => .error (.invalidField "LOG_LEVEL"
        (s!"'{s}': error parsing level filter: expected one of \"off\", \"error\", \"warn\", " ++
          "\"info\", \"debug\", \"trace\", or a number 0-5"))

def defaultApiUrl : String := "http://localhost:8080/api/v1"

/-- An address without blanks around it and without slashes at its end. It has to be a URL. -/
def baseUrl (given : String) : Except Fault String :=
  let url := Text.trimEnd '/' (Text.trim given)
  match Url.read url with
  | .ok _ => .ok url
  | .error fault => .error (.invalidField "api_base_url" s!"'{url}': {fault.message}")

/-- The address of the gateway. The command line wins over the environment, and the environment over
the file. -/
def resolveApiUrl (commandLine environment : Option String) (c : Config) : Except Fault String :=
  baseUrl ((commandLine <|> environment <|> c.apiBaseUrl).getD defaultApiUrl)

end Config

end TokenConsole
