import TokenConsole.Dictionary
import TokenConsole.Json.Raw

/-!
# JSON values

A value that is kept: every string is text, every number is in range and the nesting is bounded.
`ofRaw?` keeps members as they are written; `normal` puts them in the order of their keys, the last
of several under one key.
-/
namespace TokenConsole

inductive Json where
  | null
  | bool (b : Bool)
  | number (n : Json.Amount)
  | string (s : String)
  | array (items : List Json)
  | object (members : List (String × Json))

namespace Json

/-- How deep arrays and objects of a kept value may nest. -/
def maxDepth : Nat := 127

mutual

/-- Keeps a value that nests at most `depth` deep. -/
def ofRaw? (depth : Nat) : Raw → Option Json
  | .null => some .null
  | .bool b => some (.bool b)
  | .number n => n.amount?.map .number
  | .string s => s.map .string
  | .array vs => if depth = 0 then none else (ofRawItems? (depth - 1) vs).map .array
  | .object ms => if depth = 0 then none else (ofRawMembers? (depth - 1) ms).map .object

def ofRawItems? (depth : Nat) : List Raw → Option (List Json)
  | [] => some []
  | v :: rest =>
    match ofRaw? depth v, ofRawItems? depth rest with
    | some v, some vs => some (v :: vs)
    | _, _ => none

def ofRawMembers? (depth : Nat) : List (Option String × Raw) → Option (List (String × Json))
  | [] => some []
  | (k, v) :: rest =>
    match k, ofRaw? depth v, ofRawMembers? depth rest with
    | some k, some v, some ms => some ((k, v) :: ms)
    | _, _, _ => none

end

mutual

/-- The value with the members of every object in the order of their keys, each key once. -/
def normal : Json → Json
  | .array vs => .array (normalItems vs)
  | .object ms => .object (Dictionary.ofList (normalMembers ms))
  | v => v

def normalItems : List Json → List Json
  | [] => []
  | v :: rest => normal v :: normalItems rest

def normalMembers : List (String × Json) → List (String × Json)
  | [] => []
  | (k, v) :: rest => (k, normal v) :: normalMembers rest

end

/-- The value that bytes hold. -/
def read? (bytes : List UInt8) : Option Json :=
  ((Raw.read? bytes).bind (ofRaw? maxDepth)).map normal

end Json

end TokenConsole
