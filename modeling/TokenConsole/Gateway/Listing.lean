import TokenConsole.Gateway.Amounts
import TokenConsole.Gateway.Error
import TokenConsole.Gateway.Mapping
import TokenConsole.Text.Quoted

/-!
# The list of mappings

Reads the gateway's answer to a request for all mappings. The list is read as a whole or not at
all: the first item that is no mapping decides the error.
-/
namespace TokenConsole.Gateway

/-- A mapping as it is sent. Everything but the id may be left out. -/
structure Record where
  id : Option String
  cipherText : Option String
  wrappedKey : Option String
  ttl : Option Ttl
  createdAt : Option Timestamp
  deterministic : Option Bool
  reversible : Option Bool

namespace Record

/-- Why a value is no record. -/
inductive Fault where
  /-- A value of another kind stands where `expected` should. -/
  | unexpected (found : Json) (expected : String)
  /-- The value is none of the forms that the named type has. -/
  | noForm (type : String)
  /-- The array of fields is empty. -/
  | noItems
  /-- The array has more items than there are fields. -/
  | extraItems (length : Nat)

/-- What a value is, in a message about it. -/
def describe : Json → String
  | .null => "null"
  | .bool b => s!"boolean \x60{b}\x60"
  | .number (.whole n) => s!"integer \x60{n}\x60"
  | .number (.float x) => s!"floating point \x60{Json.floatText x}\x60"
  | .string s => "string " ++ Text.quoted s
  | .array _ => "sequence"
  | .object _ => "map"

def Fault.message : Fault → String
  | .unexpected found expected => s!"invalid type: {describe found}, expected {expected}"
  | .noForm type => s!"data did not match any variant of untagged enum {type}"
  | .noItems => "invalid length 0, expected struct MappingRecord with 7 elements"
  | .extraItems length => s!"invalid length {length}, expected fewer elements in array"

def text : Json → Except Fault (Option String)
  | .null => .ok none
  | .string s => .ok (some s)
  | v => .error (.unexpected v "a string")

def flag : Json → Except Fault (Option Bool)
  | .null => .ok none
  | .bool b => .ok (some b)
  | v => .error (.unexpected v "a boolean")

def ttlField : Json → Except Fault (Option Ttl)
  | .null => .ok none
  | v => match Ttl.ofJson? v with
    | some t => .ok (some t)
    | none => .error (.noForm "Ttl")

def timestampField : Json → Except Fault (Option Timestamp)
  | .null => .ok none
  | v => match Timestamp.ofJson? v with
    | some t => .ok (some t)
    | none => .error (.noForm "Timestamp")

/-- The value of a field; one that is left out counts as null. -/
def field (ms : List (String × Json)) (key : String) : Json :=
  (Dictionary.get? ms key).getD .null

/-- Reads the members of an object in the order of their keys, so that the first fault is that of
the least key. -/
def ofMembers (ms : List (String × Json)) : Except Fault Record := do
  let cipherText ← text (field ms "cipher_text")
  let createdAt ← timestampField (field ms "created_at")
  let wrappedKey ← text (field ms "dek_wrapped")
  let deterministic ← flag (field ms "deterministic")
  let id ← text (field ms "id")
  let reversible ← flag (field ms "reversible")
  let ttl ← ttlField (field ms "token_ttl")
  return { id, cipherText, wrappedKey, ttl, createdAt, deterministic, reversible }

/-- Reads the fields in their order of declaration. Fields at the end may be left out, but not
all. -/
def ofItems (vs : List Json) : Except Fault Record := do
  if vs = [] then throw .noItems
  let item (i : Nat) : Json := (vs[i]?).getD .null
  let id ← text (item 0)
  let cipherText ← text (item 1)
  let wrappedKey ← text (item 2)
  let ttl ← ttlField (item 3)
  let createdAt ← timestampField (item 4)
  let deterministic ← flag (item 5)
  let reversible ← flag (item 6)
  if 7 < vs.length then throw (.extraItems vs.length)
  return { id, cipherText, wrappedKey, ttl, createdAt, deterministic, reversible }

def ofJson : Json → Except Fault Record
  | .object ms => ofMembers ms
  | .array vs => ofItems vs
  | v => .error (.unexpected v "struct MappingRecord")

/-- The mapping that a record describes; none if it has no id. -/
def mapping? (r : Record) : Option Mapping :=
  match r.id with
  | none => none
  | some id =>
    if id = "" then none
    else some {
      id
      cipherText := r.cipherText.getD ""
      wrappedKey := r.wrappedKey.getD ""
      ttl := (r.ttl.map Ttl.human).getD ""
      createdAt := r.createdAt.bind Timestamp.moment?
      deterministic := r.deterministic
      reversible := r.reversible }

end Record

namespace Mapping

/-- The mapping that an item of the list describes. -/
def ofJson (v : Json) : Except Error Mapping :=
  match Record.ofJson v with
  | .error fault => .error (.unexpectedShape s!"invalid mapping: {fault.message}")
  | .ok r =>
    match r.mapping? with
    | some m => .ok m
    | none => .error (.unexpectedShape "mapping without id")

def listOfItems : List Json → Except Error (List Mapping)
  | [] => .ok []
  | v :: rest =>
    match ofJson v with
    | .error e => .error e
    | .ok m => (listOfItems rest).map (m :: ·)

/-- What stands in place of a list. -/
def kind : Json → String
  | .null => "null"
  | .bool _ => "a boolean"
  | .number _ => "a number"
  | .string _ => "a string"
  | .array _ => "an array"
  | .object _ => "an object"

/-- The mappings of an answer. Null is an empty list. -/
def listOfJson : Json → Except Error (List Mapping)
  | .null => .ok []
  | .array vs => listOfItems vs
  | v => .error (.unexpectedShape s!"expected a list of mappings, got {kind v}")

end Mapping

end TokenConsole.Gateway
