import TokenConsole.Text.Split
import TokenConsole.Url.Percent

/-!
# Paths of URLs

The path of a URL that has a place in a hierarchy is a list of segments. Segments of dots lead
nowhere or one level up; they are followed at once and do not stay in the path.
-/
namespace TokenConsole.Url

inductive Path where
  /-- Text that has no segments. -/
  | solid (text : String)
  | segments (names : List String)
  deriving DecidableEq, Repr

def Path.text : Path → String
  | .solid text => text
  | .segments names => String.join (names.map ("/" ++ ·))

/-- The segment with its encoded dots decoded, if it consists of dots only. -/
def dots? : List Char → Option Nat
  | [] => some 0
  | '%' :: '2' :: e :: rest => if e == 'e' || e == 'E' then (dots? rest).map (· + 1) else none
  | c :: rest => if c == '.' then (dots? rest).map (· + 1) else none

/-- A letter and a colon, which name a drive of a file system. A bar does for the colon. -/
def isDrive : List Char → Bool
  | [letter, mark] => letter.isAlpha && (mark == ':' || mark == '|')
  | _ => false

/-- A segment that no dots lead out of: a drive, alone or with a backslash behind it. -/
def isRoot (name : List Char) : Bool :=
  isDrive (name.take 2) && (name.length == 2 || (name.drop 2).head? == some '\\')

/-- The segments before the last one; a drive stays. -/
def parent : List (List Char) → List (List Char)
  | [] => []
  | name :: before => if isRoot name then name :: before else before

/-- Tabs and line ends, which do not count. -/
def isBreak (c : Char) : Bool := c == '\t' || c == '\n' || c == '\r'

def skipBreaks (s : List Char) : List Char := s.dropWhile isBreak

def unbroken (s : List Char) : List Char := s.filter (!isBreak ·)

/-- The drive at the start of a segment, and the rest of it, if there is a break between them. -/
def brokenDrive? (s : List Char) : Option (List Char × List Char) :=
  match skipBreaks s with
  | letter :: rest =>
    match skipBreaks rest with
    | ':' :: rest =>
      let name := unbroken rest
      if letter.isAlpha && rest.head?.any isBreak && name ≠ [] then some ([letter, ':'], name)
      else none
    | _ => none
  | [] => none

/-- A place on the way along a path. -/
structure Trail where
  /-- The segments that lead to it, the last one first. -/
  names : List (List Char)
  /-- Whether a segment that is nothing but a drive came first, in a path of files. -/
  onDrive : Bool

namespace Trail

def start : Trail := ⟨[], false⟩

/-- One level up. -/
def up (t : Trail) : Trail := { t with names := parent t.names }

/-- Into a segment. A drive that starts a path of files is written with a colon. -/
def down (isFile : Bool) (name : List Char) (t : Trail) : Trail :=
  if isFile && t.names.isEmpty && isDrive name then ⟨[name.take 1 ++ [':']], true⟩
  else { t with names := name :: t.names }

/-- The drive at the start of a segment, and the rest of it, which is not read as dots. A break
between them ends a segment if it starts a path of files. -/
def split? (isFile : Bool) (text : List Char) (t : Trail) : Option (List Char × List Char) :=
  if isFile && t.names.isEmpty then brokenDrive? text else none

/-- Follows segments. What ends in dots ends in an empty segment. -/
def follow (isFile : Bool) (t : Trail) : List (List Char) → Trail
  | [] => t
  | text :: rest =>
    match t.split? isFile text with
    | some (drive, name) =>
      follow isFile { t with names := percentEncode inPathSet name :: drive :: t.names } rest
    | none =>
      let name := percentEncode inPathSet (unbroken text)
      let place := match dots? name with
        | some 1 => t
        | some 2 => t.up
        | _ => t.down isFile name
      let ended := rest.isEmpty && (dots? name == some 1 || dots? name == some 2)
      follow isFile (if ended then { place with names := [] :: place.names } else place) rest

end Trail

/-- Where a path leads whose segments are parted by slashes. -/
def trailOf (isFile : Bool) (isSlash : Char → Bool) (s : List Char) : Trail :=
  Trail.start.follow isFile (Text.splitWhere isSlash s)

/-- The segments of a path that stands after its first slash. -/
def segmentsOf (isSlash : Char → Bool) (s : List Char) : List (List Char) :=
  (trailOf false isSlash s).names.reverse

end TokenConsole.Url
