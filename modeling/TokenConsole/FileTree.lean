/-!
# Directories

As much of a file system as making a directory with all its parents needs: which directories and
files there are. A place is the list of names that leads to it.
-/
namespace TokenConsole

structure FileTree where
  directories : List (List String)
  files : List (List String)
  deriving DecidableEq, Repr

namespace FileTree

/-- What a path leads to. -/
inductive Found where
  | directory (place : List String)
  | file
  | nothing
  /-- The way leads through a file. -/
  | blocked
  /-- A name on the way is too long to be one. -/
  | overlong
  deriving DecidableEq, Repr

inductive Fault where
  | notFound
  | exists
  | notDirectory
  | overlong
  /-- No path has a null character. -/
  | nullCharacter
  deriving DecidableEq, Repr

/-- The most bytes of a name. -/
def maxName : Nat := 255

/-- The most bytes of a path. -/
def maxPath : Nat := 4095

def isOverlong (name : String) : Bool := maxName < name.utf8ByteSize

def isDirectory (t : FileTree) (place : List String) : Bool :=
  place == [] || t.directories.contains place

/-- Follows the parts of a path from a place. -/
def follow (t : FileTree) (place : List String) : List String → Found
  | [] => .directory place
  | part :: rest =>
    if part = "." then t.follow place rest
    else if part = ".." then t.follow place.dropLast rest
    else
      let next := place ++ [part]
      if isOverlong part then .overlong
      else if t.isDirectory next then t.follow next rest
      else if t.files.contains next then (if rest = [] then .file else .blocked)
      else .nothing

/-- The parts of a path, dots included. -/
def parts (path : String) : List String := (path.splitOn "/").filter (· ≠ "")

/-- Why no path is written so. -/
def pathFault? (path : String) : Option Fault :=
  if path.contains '\x00' then some .nullCharacter
  else if maxPath < path.utf8ByteSize then some .overlong
  else none

/-- Whether there is something at a path. The empty path leads to the directory itself, and one that
ends in a slash to a directory only. -/
def exists? (t : FileTree) (path : String) : Bool :=
  (pathFault? path).isNone &&
    match t.follow [] (parts path) with
    | .directory _ => true
    | .file => !path.endsWith "/"
    | _ => false

/-- Makes one directory. -/
def make (t : FileTree) (parts : List String) : Except Fault FileTree :=
  match parts.getLast? with
  | none => .error .notFound
  | some name =>
    match t.follow [] parts.dropLast with
    | .directory place =>
      let place := place ++ [name]
      if isOverlong name then .error .overlong
      else if name = "." ∨ name = ".." ∨ t.isDirectory place ∨ t.files.contains place then
        .error .exists
      else .ok { t with directories := t.directories ++ [place] }
    | .nothing => .error .notFound
    | .overlong => .error .overlong
    | _ => .error .notDirectory

/-- Makes a directory unless there is one. -/
def ensure (t : FileTree) (parts : List String) : Except Fault FileTree :=
  match t.make parts with
  | .ok t => .ok t
  | .error fault =>
    match t.follow [] parts with
    | .directory _ => .ok t
    | _ => .error fault

/-- Makes the directories that lead to the reversed path. -/
def makeParents (t : FileTree) : List String → Except Fault FileTree
  | [] => .ok t
  | name :: rest =>
    let parts := (name :: rest).reverse
    match t.ensure parts with
    | .error .notFound =>
      match t.makeParents rest with
      | .ok t => t.ensure parts
      | .error fault => .error fault
    | r => r

/-- Makes the directory at a path and all that lead to it. The empty path needs nothing. -/
def makeAll (t : FileTree) (path : String) : Except Fault FileTree :=
  let all := parts path
  match pathFault? path with
  | some fault => .error fault
  | none =>
    if all = [] then .ok t
    else match t.ensure all with
      | .error .notFound =>
        let named := all.filter (· ≠ ".")
        match t.makeParents named.dropLast.reverse with
        | .ok t => t.ensure all
        | .error fault => .error fault
      | r => r

end FileTree

end TokenConsole
