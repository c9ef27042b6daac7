import TokenConsole.Gateway.Cookie
import TokenConsole.Gateway.Exchange

/-!
# Sessions

A session talks to one gateway and keeps the cookies that it sets; they stand for the user who
signed in. What carries requests over the wire is left open: it gives a response, or none if the
gateway cannot be reached.
-/
namespace TokenConsole.Gateway

structure Request where
  method : Method
  url : Url
  /-- The names in front of the host, encoded, if there are any. -/
  authorization : Option String
  cookies : List (String × String)
  body : Option Json

namespace Request

def contentType : String := "application/json"

/-- The path and the query, which is what a server is told. -/
def target (r : Request) : String :=
  r.url.path.text ++ (match r.url.query with
    | some q => "?" ++ q
    | none => "")

end Request

structure Session where
  /-- The address of the gateway, without slashes at its end. -/
  base : String
  cookies : Cookies

namespace Session

/-- A session in which nobody has signed in. -/
def fresh (address : String) : Session := ⟨Text.trimEnd '/' address, []⟩

/-- The request is not made. -/
def refused (url : Url) : Error := .transport s!"builder error for url ({url.text})"

/-- No response came. -/
def unreached (url : Url) : Error :=
  .transport s!"error sending request for url ({url.text})"

/-- The text that an encoded name in front of a host stands for. -/
def nameText? (name : String) : Option String :=
  (Text.Utf8.decode (Url.percentDecode name.toList)).toOption

/-- The header that carries the names in front of a host. A user that is no text is not sent. -/
def authorization? (a : Url.Authority) : Option String := do
  let user ← nameText? a.user
  let password := if a.password = "" then none else nameText? a.password
  if user = "" ∧ password = none then none
  else
    let names := user ++ ":" ++ password.getD ""
    some ("Basic " ++ Text.Base64.encodeText (Text.Utf8.encode names))

/-- The address without the names that a header carries. -/
def withoutNames (url : Url) : Url :=
  match url.authority with
  | some a =>
    if (authorization? a).isSome then
      { url with authority := some { a with user := "", password := "" } }
    else url
  | none => url

/-- The name of this machine, by word or by number. -/
def isLoopback : Url.Host → Bool
  | .name text => text == "localhost" || text.endsWith ".localhost"
  | .ipv4 number => number / Number.twoTo 24 == 127
  | .ipv6 groups => groups == [0, 0, 0, 0, 0, 0, 0, 1]

/-- The cookies that go to an address. -/
def cookiesFor (s : Session) (scheme : String) (host : Url.Host) (target : String) :
    List (String × String) :=
  let secure := scheme == "https" || isLoopback host
  (s.cookies.filter fun c => c.goesTo secure host.text target).map fun c => (c.name, c.value)

/-- The most bytes of an address to which a request goes. -/
def maxAddress : Nat := 65534

/-- Characters that a domain may have and the host of a request may not. The last one is the grave
accent. -/
def isUnfit (c : Char) : Bool := c == '"' || c == '\x7b' || c == '\x7d' || c.toNat == 0x60

/-- Whether requests can go to an address. -/
def isServed (url : Url) (host : Url.Host) : Bool :=
  (url.scheme == "http" || url.scheme == "https") && !host.text.toList.any isUnfit &&
    url.text.utf8ByteSize ≤ maxAddress

/-- The request of a call. -/
def request (s : Session) (c : Call) : Except Error Request :=
  match Url.read (s.base ++ c.path) with
  | .error _ => .error (.transport "builder error")
  | .ok url =>
    match url.authority with
    | none => .error (refused url)
    | some a =>
      let plain := withoutNames url
      if a.host = .name "" then .error (refused url)
      else if !isServed plain a.host then .error (refused plain)
      else .ok
        { method := c.method, url := plain, authorization := authorization? a
          cookies := s.cookiesFor url.scheme a.host url.path.text, body := c.payload? }

/-- The session after a response. -/
def after (s : Session) (q : Request) (r : Response) : Session :=
  match q.url.authority with
  | some a => { s with cookies := s.cookies.store a.host q.url.path.text r.settings }
  | none => s

/-- Asks the gateway by way of `carry`, whose state every request advances. -/
def serve {τ : Type} (carry : Request → τ → Option Response × τ) (c : Call) (s : Session × τ) :
    c.Reply × (Session × τ) :=
  match s.1.request c with
  | .error e => (.error e, s)
  | .ok q =>
    match carry q s.2 with
    | (none, t) => (.error (unreached q.url), (s.1, t))
    | (some r, t) => (c.read r, (s.1.after q r, t))

end Session

end TokenConsole.Gateway
