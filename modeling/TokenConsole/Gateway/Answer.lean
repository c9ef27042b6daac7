import TokenConsole.Gateway.Listing
import TokenConsole.Gateway.Status

/-!
# Answers of the gateway

Reads the bodies of answers: the one field that each successful answer carries, and the text of a
failure.
-/
namespace TokenConsole.Gateway.Answer

open TokenConsole.Json (Raw)

/-- The only field of an answer: absent or there. It may be repeated nowhere; other fields are
skipped, but their names have to be text. The field alone in an array will do as well. -/
def field? (key : String) : Raw → Option (Option Raw)
  | .object ms =>
    if ms.any (·.1.isNone) then none
    else match ms.filter (·.1 == some key) with
      | [] => some none
      | [(_, v)] => some (some v)
      | _ => none
  | .array [v] => some (some v)
  | _ => none

/-- A field that has to be there. -/
def required? (key : String) (body : List UInt8) : Option Raw := do
  let v ← Raw.read? body
  (← field? key v)

/-- The id of the user who signed in, a text or a number. -/
def userId? (body : List UInt8) : Option String :=
  match required? "user_id" body with
  | some (.string s) => s
  | some (.number n) =>
    match n.amount? with
    | some (.whole n) => (Number.checkInt64 n).map toString
    | _ => none
  | _ => none

def isAdmin? (body : List UInt8) : Option Bool :=
  match required? "result" body with
  | some (.bool b) => some b
  | _ => none

def text? (key : String) (body : List UInt8) : Option String :=
  match required? key body with
  | some (.string s) => s
  | _ => none

def tokenId? (body : List UInt8) : Option String := text? "id" body

/-- The encoded plaintext behind a token. -/
def plaintext? (body : List UInt8) : Option String := text? "plaintext" body

/-- The text of the `error` field of a failure. -/
def errorField? (body : List UInt8) : Option String := do
  let v ← Raw.read? body
  match ← field? "error" v with
  | some (.string s) => s
  | _ => none

/-- The text of a failure whose body is a text alone. -/
def bareText? (body : List UInt8) : Option String :=
  match Raw.read? body with
  | some (.string s) => s
  | _ => none

/-- What a failed answer says: its `error` field, else a body that is a JSON text, else the body
itself, else the reason of its status. Blank texts say nothing. -/
def failureText (status : Nat) (body : String) : String :=
  let bytes := Text.Utf8.encode body
  let said := (errorField? bytes <|> bareText? bytes).filter fun s => !Text.isBlank s
  match said with
  | some s => s
  | none =>
    let shown := Text.trim body
    if shown ≠ "" then shown else (Status.reason? status).getD ""

/-- The error of a failed answer. -/
def failure (status : Nat) (body : String) : Error := .http status (failureText status body)

end TokenConsole.Gateway.Answer
