import TokenConsole.CommandLine
import TokenConsole.Config
import TokenConsole.Console
import TokenConsole.DataDir

/-!
# Start-up

What the program settles before it opens its window: where its files are, what it logs and which
gateway it talks to. The command line, the environment and the configuration file have a say in it.
-/
namespace TokenConsole.Startup

/-- The variable that names the gateway. -/
def urlVariable : String := "ANONIX_API_URL"

/-- The variable that sets the level of the log. -/
def levelVariable : String := "LOG_LEVEL"

inductive Fault where
  | arguments (fault : CommandLine.Fault)
  /-- No directory is given and the user has no home. -/
  | noHome
  | config (fault : Config.Fault)
  deriving DecidableEq, Repr

def Fault.message : Fault → String
  | .arguments fault => fault.message
  | .noHome => "Failed to get default data directory"
  | .config fault => fault.message

/-- The environment of the program. -/
structure Environment where
  home : Option String
  url : Option String
  level : Option String

structure Settings where
  directory : String
  level : Log.Filter
  url : String
  /-- How long a toast stays on the screen, in milliseconds. -/
  toastMillis : Nat
  deriving DecidableEq, Repr

/-- The data directory: the one that is given, else the one in the home of the user. -/
def directory (args : List CommandLine.Arg) (env : Environment) : Except Fault String :=
  match CommandLine.lastDatadir? args, env.home with
  | some path, _ => .ok path
  | none, some home => .ok (DataDir.inHome home)
  | none, none => .error .noHome

/-- Settles everything, given what stands in place of the configuration file. -/
def settings (args : List CommandLine.Arg) (env : Environment) (directory : String)
    (file : Config.File) : Except Config.Fault Settings := do
  let config ← Config.load file
  let level ← Config.resolveLevel env.level config
  let url ← Config.resolveApiUrl (CommandLine.lastApiUrl? args) env.url config
  return { directory, level, url, toastMillis := config.toastMillis }

/-- The first lines of the log. -/
def greeting (s : Settings) (file : Config.File) : List String :=
  let first := s!"Anonix console v{Console.version} using gateway {s.url}"
  match file with
  | .missing =>
    [first, s!"No configuration file at {DataDir.configFile s.directory}, using defaults"]
  | _ => [first]

/-- The target of the messages that the program logs itself. -/
def logTarget : String := "anonix_gui"

/-- The first lines of the log, as far as its level lets them through. -/
def firstLines (s : Settings) (file : Config.File) : List String :=
  if Log.writes s.level logTarget .info then greeting s file else []

end TokenConsole.Startup
