import TokenConsole.Gateway.Answer
import TokenConsole.Gateway.Call
import TokenConsole.Text.Base64

/-!
# Requests and responses

What a call sends to the gateway, and what is made of the response. A status that is no success
decides alone; the body of a success has to hold what the call asked for.
-/
namespace TokenConsole.Gateway

inductive Method where
  | get
  | post
  | delete
  deriving DecidableEq, Repr

def Method.name : Method → String
  | .get => "GET"
  | .post => "POST"
  | .delete => "DELETE"

/-- What comes back over the wire. -/
structure Response where
  status : Nat
  body : List UInt8
  /-- The connection broke before the body ended. -/
  cut : Bool
  /-- The cookies that it sets, as they are written. -/
  settings : List String

namespace Response

/-- The body of a failure as text. -/
def text (r : Response) : String :=
  if r.cut then "Failed to read response text" else Text.Utf8.decodeLossy r.body

/-- What the body of a success holds. -/
def holding {α : Type} (r : Response) (read : List UInt8 → Option α) : Except Error α :=
  match if r.cut then none else read r.body with
  | some a => .ok a
  | none => .error (.unexpectedShape "error decoding response body")

end Response

/-- The plaintext behind an encoded one. -/
def plaintextOf (encoded : String) : Except Error String :=
  match Text.Base64.decode (Text.Utf8.encode (Text.trim encoded)) with
  | .error fault => .error (.decode fault.message)
  | .ok bytes =>
    match Text.Utf8.decode bytes with
    | .error fault => .error (.decode fault.message)
    | .ok text => .ok text

namespace Call

def method : Call → Method
  | .listMappings => .get
  | .deleteMapping _ => .delete
  | _ => .post

/-- Where a call goes, below the address of the gateway. -/
def path : Call → String
  | .signUp .. => "/auth/signUp"
  | .signIn .. => "/auth/signIn"
  | .isAdmin _ => "/user/isAdmin"
  | .listMappings => "/mappings/"
  | .deleteMapping id => "/mappings/" ++ id
  | .tokenize .. => "/tokenizer/tokenize"
  | .detokenize _ => "/tokenizer/detokenize"

/-- The role of an account that signs up. -/
def userRole : Nat := 2

/-- What a call sends. A plaintext is sent encoded, as it need not be printable. -/
def payload? : Call → Option Json
  | .signUp login password => some (.object [("login", .string login),
      ("password", .string password), ("role_id", .number (.whole userRole))])
  | .signIn login password =>
    some (.object [("login", .string login), ("password", .string password)])
  | .isAdmin userId => some (.object [("user_id", .string userId)])
  | .listMappings => none
  | .deleteMapping _ => none
  | .tokenize plaintext ttl =>
    let lifetime := match ttl with
      | some seconds => [("token_ttl", Json.number (.whole seconds))]
      | none => []
    some (.object ([("plaintext", .string (Text.Base64.encodeText (Text.Utf8.encode plaintext)))] ++
      lifetime ++ [("deterministic", .bool true), ("reversible", .bool true)]))
  | .detokenize token => some (.object [("token", .string token)])

/-- Calls that are for users who are signed in. -/
def needsSession : Call → Bool
  | .listMappings | .deleteMapping _ | .tokenize .. | .detokenize _ => true
  | _ => false

/-- What a status says that is no success. -/
def failure? (c : Call) (r : Response) : Option Error :=
  if c.needsSession ∧ r.status = 401 then some .sessionExpired
  else if Status.isSuccess r.status then none
  else
    match c, r.status with
    | .signUp .., 409 => some .conflict
    | .signIn .., 401 => some .invalidCredentials
    | .detokenize _, 400 => some .invalidToken
    | _, status => some (Answer.failure status r.text)

/-- What a success says. The body counts only where an answer is asked for. -/
def success (c : Call) (r : Response) : c.Reply :=
  match c with
  | .signUp .. => .ok ()
  | .signIn .. => r.holding Answer.userId?
  | .isAdmin _ => r.holding Answer.isAdmin?
  | .listMappings =>
    match r.holding Json.read? with
    | .ok v => Mapping.listOfJson v
    | .error e => .error e
  | .deleteMapping _ => .ok ()
  | .tokenize .. => r.holding Answer.tokenId?
  | .detokenize _ =>
    match r.holding Answer.plaintext? with
    | .ok encoded => plaintextOf encoded
    | .error e => .error e

/-- The reply to a call that a response brings. -/
def read (c : Call) (r : Response) : c.Reply :=
  match c.failure? r with
  | some e => .error e
  | none => c.success r

end Call

end TokenConsole.Gateway
