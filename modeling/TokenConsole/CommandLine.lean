/-!
# The command line

A command line is a sequence of flags, each with a value. Asking for the version or for help counts
only as the first argument.
-/
namespace TokenConsole.CommandLine

inductive Arg where
  | datadir (path : String)
  | apiUrl (url : String)
  deriving DecidableEq, Repr

inductive Fault where
  | missingValue (flag : String)
  | unknown (argument : String)
  deriving DecidableEq, Repr

def Fault.message : Fault → String
  | .missingValue flag => s!"missing arg to {flag}"
  | .unknown argument => s!"unknown argument {argument}"

def datadirFlag : String := "--datadir"

def apiUrlFlag : String := "--api-url"

/-- The argument that a flag and its value give. -/
def argOf? (flag value : String) : Option Arg :=
  if flag = datadirFlag then some (.datadir value)
  else if flag = apiUrlFlag then some (.apiUrl value)
  else none

/-- Reads flags with their values. A value may look like a flag. -/
def parse : List String → Except Fault (List Arg)
  | [] => .ok []
  | [flag] =>
    if flag = datadirFlag ∨ flag = apiUrlFlag then .error (.missingValue flag)
    else .error (.unknown flag)
  | flag :: value :: rest =>
    match argOf? flag value with
    | none => .error (.unknown flag)
    | some arg => (parse rest).map (arg :: ·)

/-- The last directory that is given. -/
def lastDatadir? (args : List Arg) : Option String :=
  (args.filterMap fun
    | .datadir path => some path
    | .apiUrl _ => none).getLast?

/-- The last url that is given. -/
def lastApiUrl? (args : List Arg) : Option String :=
  (args.filterMap fun
    | .datadir _ => none
    | .apiUrl url => some url).getLast?

/-- The parts of a path between slashes, less the empty ones and the dots. -/
def pathParts (path : String) : List String :=
  (path.splitOn "/").filter fun part => part ≠ "" ∧ part ≠ "."

/-- The name of the program as its path gives it. -/
def programName (path : String) : String :=
  match (pathParts path).getLast? with
  | none => "anonix-gui"
  | some name => if name = ".." then "anonix-gui" else name

def helpText (program : String) : String :=
  s!"
Usage: {program} [OPTIONS]

Options:
    --datadir <PATH>    Path of anonix datadir
    --api-url <URL>     Base url of the gateway API
    -v, --version       Display {program} version
    -h, --help          Print help
        "

/-- What the command line asks for. -/
inductive Request where
  /-- Print a text and end. -/
  | print (text : String)
  | run (args : List Arg)
  | refuse (fault : Fault)
  deriving DecidableEq, Repr

/-- Reads a command line, of which the first word is the path of the program. -/
def read (version : String) (words : List String) : Request :=
  match words with
  | [] => .run []
  | program :: rest =>
    match rest.head? with
    | some "-v" | some "--version" => .print version
    | some "-h" | some "--help" => .print (helpText (programName program))
    | _ =>
      match parse rest with
      | .ok args => .run args
      | .error fault => .refuse fault

end TokenConsole.CommandLine
