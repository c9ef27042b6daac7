/-!
# The data directory

The directory that holds the configuration and the log.
-/
namespace TokenConsole.DataDir

def configName : String := "gui.toml"

def logName : String := "anonix-gui.log"

/-- The name of the directory in the home of the user. -/
def homeName : String := ".anonix"

/-- The access rights of a new directory: for its owner alone. -/
def mode : Nat := 0o700

/-- The path of an entry of a directory. -/
def join (directory name : String) : String :=
  if directory = "" ∨ directory.endsWith "/" then directory ++ name
  else directory ++ "/" ++ name

def configFile (directory : String) : String := join directory configName

def logFile (directory : String) : String := join directory logName

/-- The data directory of the user with a home directory. -/
def inHome (home : String) : String := join home homeName

end TokenConsole.DataDir
