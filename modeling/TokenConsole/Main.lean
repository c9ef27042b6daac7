import TokenConsole.Startup

/-!
# The program

Reads the command line, the environment and the configuration file, makes the data directory, and
opens the log. There is no window to draw on here, so the program ends after that.
-/
namespace TokenConsole

/-- Makes a directory and those that lead to it. A new one is for its owner alone. -/
def makeDirectory (path : String) : IO Unit := do
  try IO.FS.createDir path
  catch
    | .alreadyExists .. => return
    | _ => IO.FS.createDirAll path
  IO.setAccessRights path { user := { read := true, write := true, execution := true } }

def readConfigFile (path : String) : IO Config.File := do
  try return .bytes (← IO.FS.readBinFile path).toList
  catch
    | .noFileOrDirectory .. => return .missing
    | _ => return .unreadable

def fail (text : String) : IO UInt32 := do
  IO.eprintln s!"Error: {text}"
  return 1

def start (args : List CommandLine.Arg) : IO UInt32 := do
  let env : Startup.Environment :=
    { home := ← IO.getEnv "HOME"
      url := ← IO.getEnv Startup.urlVariable
      level := ← IO.getEnv Startup.levelVariable }
  match Startup.directory args env with
  | .error fault => fail fault.message
  | .ok directory =>
    makeDirectory directory
    let file ← readConfigFile (DataDir.configFile directory)
    match Startup.settings args env directory file with
    | .error fault => fail fault.message
    | .ok settings =>
      let lines := Startup.firstLines settings file
      IO.FS.writeFile (DataDir.logFile directory) (String.join (lines.map (· ++ "\n")))
      for line in lines do IO.println line
      fail "Failed to launch UI: no display"

/-- Runs the program on the words of its command line, its own name first. -/
def run (words : List String) : IO UInt32 :=
  match CommandLine.read Console.version words with
  | .print text => do
    IO.eprintln text
    return 0
  | .refuse fault => fail fault.message
  | .run args => start args

end TokenConsole

def main (args : List String) : IO UInt32 := do
  let program ← IO.appPath
  TokenConsole.run (program.toString :: args)
