import TokenConsole.Text.Blank
import TokenConsole.Url.Host
import TokenConsole.Url.Path

/-!
# URLs

A URL is read into its parts and written from them in one normal form. Reading is lenient: controls
and blanks around the text and line ends inside it do not count, in web addresses a backslash is a
slash, and what may not stand for itself is encoded.
-/
namespace TokenConsole

namespace Url

/-- Where a resource is, and under which names it is asked for. -/
structure Authority where
  user : String
  password : String
  host : Host
  /-- The number behind the host, unless it is the one that the scheme has anyway. -/
  portNumber : Option Nat
  deriving DecidableEq, Repr

end Url

structure Url where
  scheme : String
  authority : Option Url.Authority
  path : Url.Path
  query : Option String
  fragment : Option String
  deriving DecidableEq, Repr

namespace Url

/-! ## Writing -/

def Authority.text (a : Authority) : String :=
  let password := if a.password = "" then "" else ":" ++ a.password
  let names := a.user ++ password
  let number := match a.portNumber with
    | some n => ":" ++ toString n
    | none => ""
  (if names = "" then "" else names ++ "@") ++ a.host.text ++ number

/-- Two slashes in front would read as an authority; a dot between them prevents that. -/
def Path.textAlone : Path → String
  | .segments ("" :: name :: names) => "/." ++ (Path.segments ("" :: name :: names)).text
  | path => path.text

def text (u : Url) : String :=
  let place := match u.authority with
    | some a => "//" ++ a.text ++ u.path.text
    | none => u.path.textAlone
  let query := match u.query with
    | some q => "?" ++ q
    | none => ""
  let fragment := match u.fragment with
    | some f => "#" ++ f
    | none => ""
  u.scheme ++ ":" ++ place ++ query ++ fragment

/-! ## Schemes -/

inductive Family where
  /-- Schemes of the web, whose hosts are domains. -/
  | web
  | file
  | other
  deriving DecidableEq, Repr

def family (scheme : String) : Family :=
  if ["http", "https", "ws", "wss", "ftp"].contains scheme then .web
  else if scheme = "file" then .file
  else .other

def defaultPortNumber? (scheme : String) : Option Nat :=
  [("http", 80), ("https", 443), ("ws", 80), ("wss", 443), ("ftp", 21)].lookup scheme

/-- The text without controls and blanks around it. -/
def trimmed (s : List Char) : List Char :=
  let isOuter (c : Char) : Bool := c.toNat ≤ 0x20
  Text.dropEndWhile isOuter (s.dropWhile isOuter)

def isSchemeChar (c : Char) : Bool := c.isAlphanum || c == '+' || c == '-' || c == '.'

/-- The scheme and what follows its colon. -/
def scheme? (s : List Char) : Option (String × List Char) :=
  match Text.cutWhere? (· == ':') s with
  | some (name, rest) =>
    let name := unbroken name
    if name.head?.any Char.isAlpha && name.all isSchemeChar then
      some (String.ofList (name.map Char.toLower), rest)
    else none
  | none => none

/-! ## Authorities -/

/-- The part of an authority up to the colon behind the host. A colon in brackets belongs to the
host. -/
def hostPart (inBrackets : Bool) : List Char → List Char
  | [] => []
  | c :: rest =>
    if c == ':' && !inBrackets then []
    else c :: hostPart (c == '[' || (inBrackets && c != ']')) rest

/-- The number behind a host and what follows it: nothing, or a backslash. -/
def portNumber? (scheme : String) (s : List Char) : Except Fault (Option Nat × List Char) :=
  let ds := s.takeWhile Char.isDigit
  let after := s.dropWhile Char.isDigit
  let n := Number.ofRadix 10 ds
  if 65535 < n ∨ (after ≠ [] ∧ after.head? ≠ some '\\') then .error .invalidPort
  else .ok (if ds = [] ∨ defaultPortNumber? scheme = some n then none else some n, after)

/-- A host and the number behind it, and what follows them. -/
def place? (scheme : String) (s : List Char) : Except Fault (Host × Option Nat × List Char) := do
  let hostText := hostPart false s
  let behind := s.drop hostText.length
  let host ←
    if family scheme = .other then Host.ofText hostText
    else if hostText = [] then .error .emptyHost
    else Host.ofDomain hostText
  if hostText = [] ∧ behind ≠ [] then .error .emptyHost
  let (number, rest) ← portNumber? scheme (behind.drop 1)
  return (host, number, rest)

/-- An authority at the start of a text, and what follows it. Names need a host. `goesOn` says
whether anything follows the text. -/
def authority? (scheme : String) (goesOn : Bool) (s : List Char) :
    Except Fault (Authority × List Char) := do
  let isEnd (c : Char) : Bool :=
    c == '/' || c == '?' || c == '#' || (c == '\\' && family scheme = .web)
  let all := s.takeWhile fun c => !isEnd c
  let rest := s.dropWhile fun c => !isEnd c
  let (names, place) := (Text.cutLastWhere? (· == '@') all).getD ([], all)
  if all = ['@'] ∧ (goesOn ∨ rest ≠ []) then .error .emptyHost
  let (user, password) := (Text.cutWhere? (· == ':') names).getD (names, [])
  let (host, number, more) ← place? scheme place
  if host = .name "" ∧ (user ≠ [] ∨ password ≠ []) then .error .emptyHost
  let encoded (s : List Char) : String := String.ofList (percentEncode inCredentialSet s)
  return (⟨encoded user, encoded password, host, number⟩, more ++ rest)

/-! ## Reading -/

def isPathEnd (c : Char) : Bool := c == '?' || c == '#'

def isSlash (c : Char) : Bool := c == '/'

/-- A slash of a web address or of a file. -/
def isAnySlash (c : Char) : Bool := c == '/' || c == '\\'

def pathOf (isSlash : Char → Bool) (s : List Char) : Path :=
  .segments ((segmentsOf isSlash s).map String.ofList)

def dropSlash (isSlash : Char → Bool) (s : List Char) : List Char :=
  match s with
  | c :: rest => if isSlash c then rest else s
  | [] => []

/-- The authority and the path of the text before the query. -/
def webParts (scheme : String) (goesOn : Bool) (s : List Char) :
    Except Fault (Option Authority × Path) :=
  (authority? scheme goesOn (s.dropWhile isAnySlash)).map fun (authority, rest) =>
    (some authority, pathOf isAnySlash (dropSlash isAnySlash rest))

/-- This machine is not written as a host. -/
def here : Host := .name ""

/-- A file on this machine, or on a host, and its path. No segment at the start of a path is empty,
and a path on a drive is on this machine. -/
def fileAt (host : Host) (s : List Char) : Option Authority × Path :=
  let trail := trailOf true isAnySlash s
  let names := match trail.names.reverse.dropWhile (· == []) with
    | [] => [[]]
    | names => names
  (some ⟨"", "", if trail.onDrive then here else host, none⟩,
    .segments (names.map String.ofList))

/-- The parts of the text behind two slashes. A drive in the place of a host starts the path. The
slash behind a host is not of the path, but one that follows no host is. -/
def hostedFileParts (s : List Char) : Except Fault (Option Authority × Path) :=
  let name := unbroken (s.takeWhile fun c => !isAnySlash c)
  let path := s.dropWhile fun c => !isAnySlash c
  if isDrive name then .ok (fileAt here s)
  else if name = [] then .ok (fileAt here path)
  else (Host.ofDomain name).map fun host =>
    if host = .name "localhost" then fileAt here path
    else fileAt host (dropSlash isAnySlash path)

/-- The parts of the text before the query, in which breaks still stand. -/
def fileParts (s : List Char) : Except Fault (Option Authority × Path) :=
  match skipBreaks s with
  | a :: path =>
    if isAnySlash a then
      match skipBreaks path with
      | b :: rest => if isAnySlash b then hostedFileParts rest else .ok (fileAt here path)
      | [] => .ok (fileAt here path)
    else .ok (fileAt here s)
  | [] => .ok (fileAt here [])

def otherParts (scheme : String) (goesOn : Bool) (s : List Char) :
    Except Fault (Option Authority × Path) :=
  match s with
  | '/' :: '/' :: rest =>
    (authority? scheme goesOn rest).map fun (authority, rest) =>
      (some authority,
        if rest = [] then .segments [] else pathOf isSlash (dropSlash isSlash rest))
  | '/' :: rest => .ok (none, pathOf isSlash rest)
  | _ => .ok (none, .solid (String.ofList (percentEncode isControl s)))

/-- What follows a mark, encoded. -/
def marked? (mark : Char) (set : Char → Bool) (s : List Char) : Option String :=
  match s with
  | c :: rest =>
    if c == mark then some (String.ofList (percentEncode set (unbroken rest))) else none
  | [] => none

/-- Reads a URL that stands for itself. -/
def read (s : String) : Except Fault Url :=
  match scheme? (trimmed s.toList) with
  | none => .error .noScheme
  | some (scheme, rest) => do
    let before := rest.takeWhile (· != '#')
    let place := before.takeWhile (· != '?')
    let goesOn := place.length < rest.length
    let (authority, path) ← match family scheme with
      | .web => webParts scheme goesOn (unbroken place)
      | .file => fileParts place
      | .other => otherParts scheme goesOn (unbroken place)
    let querySet := if family scheme = .other then inQuerySet else inWebQuerySet
    let query := marked? '?' querySet (before.drop place.length)
    let fragment := marked? '#' inFragmentSet (rest.drop before.length)
    return { scheme, authority, path, query, fragment }

/-- Whether there is a host to ask. -/
def hasHost (u : Url) : Bool :=
  match u.authority with
  | some a => a.host != .name ""
  | none => false

end Url

end TokenConsole
