import TokenConsole.Number.Whole
import TokenConsole.Text.Split
import TokenConsole.Url.Basic

/-!
# Cookies

What a server asks to be told again. A cookie belongs to a domain and to a path; it is sent with the
requests that fall under both. The cookies of a session live as long as the session; a server
removes one by setting it with a lifetime that is over.
-/
namespace TokenConsole.Gateway

structure Cookie where
  name : String
  value : String
  domain : String
  /-- Hosts below the domain do not get the cookie. -/
  hostOnly : Bool
  path : String
  /-- Sent over an encrypted connection only, or to this machine. -/
  secure : Bool
  deriving DecidableEq, Repr

/-- Cookies, of which no two have their name, domain and path in common. -/
abbrev Cookies := List Cookie

namespace Cookie

open TokenConsole.Text (trimChars splitWhere cutWhere?)

def isDomainOf (domain host : String) : Bool :=
  host == domain || host.endsWith ("." ++ domain)

/-- A path covers itself and what is below it. -/
def covers (path target : String) : Bool :=
  target == path ||
    (target.startsWith path && (path.endsWith "/" || target.startsWith (path ++ "/")))

/-- The path up to its last slash. -/
def defaultPath (target : String) : String :=
  match Text.cutLastWhere? (· == '/') target.toList with
  | some (before, _) => if before = [] then "/" else String.ofList before
  | none => "/"

/-- The names and values between semicolons, without blanks around them. -/
def attributes (s : List Char) : List (String × Option String) :=
  (splitWhere (· == ';') s).map fun part =>
    let text (s : List Char) : String := String.ofList (trimChars s)
    match cutWhere? (· == '=') part with
    | some (name, value) => (text name, some (text value))
    | none => (text part, none)

/-- The last value of an attribute. Letter case does not count in its name. -/
def attribute? (as : List (String × Option String)) (name : String) : Option (Option String) :=
  (as.filter fun a => a.1.toLower == name).getLast?.map (·.2)

/-- Whether a lifetime in seconds is over at once. -/
def isOver (lifetime : String) : Bool :=
  match lifetime.toList with
  | '-' :: ds => (Number.numeral? ds).isSome
  | ds => Number.numeral? ds = some 0

/-- Reads a cookie that an answer from a host sets, and whether it is to be removed. A domain that
the host is not in is refused. -/
def read? (host : Url.Host) (target : String) (s : String) : Option (Cookie × Bool) :=
  match attributes s.toList with
  | (name, some value) :: as =>
    let own := host.text
    let given := match attribute? as "domain" with
      | some (some d) => String.ofList ((d.toLower.toList).dropWhile (· == '.'))
      | _ => ""
    let path := match attribute? as "path" with
      | some (some p) => if p.startsWith "/" then p else defaultPath target
      | _ => defaultPath target
    let isGone := match attribute? as "max-age" with
      | some (some lifetime) => isOver lifetime
      | _ => false
    let named := match host with
      | .name _ => isDomainOf given own
      | _ => given == own
    if name = "" ∨ (given ≠ "" ∧ !named) then none
    else
      some ({ name, value, path
              domain := if given = "" then own else given
              hostOnly := given = ""
              secure := (attribute? as "secure").isSome }, isGone)
  | _ => none

def isSame (a b : Cookie) : Bool := a.name == b.name && a.domain == b.domain && a.path == b.path

/-- Whether a request to a host gets the cookie. -/
def goesTo (c : Cookie) (secure : Bool) (host target : String) : Bool :=
  (if c.hostOnly then host == c.domain else isDomainOf c.domain host) && covers c.path target &&
    (!c.secure || secure)

end Cookie

namespace Cookies

/-- Puts a cookie in place of the one that it replaces. -/
def put (cs : Cookies) (c : Cookie) : Cookies := cs.filter (fun d => !c.isSame d) ++ [c]

def remove (cs : Cookies) (c : Cookie) : Cookies := cs.filter fun d => !c.isSame d

/-- Follows what an answer sets. -/
def store (cs : Cookies) (host : Url.Host) (target : String) (settings : List String) : Cookies :=
  settings.foldl (fun cs s =>
    match Cookie.read? host target s with
    | some (c, isGone) => if isGone then cs.remove c else cs.put c
    | none => cs) cs

end Cookies

end TokenConsole.Gateway
