import TokenConsole.Toml.Table
import TokenConsole.Toml.Text

/-!
# TOML documents

Reads a document line by line. Version 1.1 of the format is read: a table in braces may run over
several lines, also around an equals sign, and end in a comma.
-/
namespace TokenConsole.Toml

/-- How deep arrays and tables in braces may nest. -/
def maxNesting : Nat := 80

/-- Characters that end a scalar. -/
def endsScalar (c : Char) : Bool :=
  isGap c || c == ',' || c == ']' || c == '\x7d' || c == '#' || c == '=' || c == '"' || c == '\''

/-- The characters of a scalar. A date may be followed by a blank and a time. -/
def takeScalar (s : List Char) : List Char × List Char :=
  let word := s.takeWhile (!endsScalar ·)
  let rest := s.drop word.length
  match rest with
  | ' ' :: c :: more =>
    if day? word == some [] && c.isDigit then
      let time := (c :: more).takeWhile (!endsScalar ·)
      (word ++ ' ' :: time, (c :: more).drop time.length)
    else (word, rest)
  | _ => (word, rest)

mutual

/-- A value and what follows it, with `depth` levels left to nest. -/
def value? : Nat → Nat → List Char → Option (Value × List Char)
  | 0, _, _ => none
  | fuel + 1, depth, s =>
    match s with
    | '[' :: rest => if depth = 0 then none else (items? fuel (depth - 1) rest).map (.array, ·)
    | '\x7b' :: rest =>
      if depth = 0 then none else (members? fuel (depth - 1) [] rest).map (.table, ·)
    | '"' :: _ | '\'' :: _ => (quotedText? s).map fun (t, rest) => (.text (String.ofList t), rest)
    | s =>
      let (word, rest) := takeScalar s
      (scalar? word).map fun v => (.scalar v, rest)

/-- What follows an array, whose next item starts here. -/
def items? : Nat → Nat → List Char → Option (List Char)
  | 0, _, _ => none
  | fuel + 1, depth, s =>
    match skipLines s.length s with
    | ']' :: rest => some rest
    | s => do
      let (_, rest) ← value? fuel depth s
      match skipLines rest.length rest with
      | ',' :: rest => items? fuel depth rest
      | ']' :: rest => some rest
      | _ => none

/-- What follows a table in braces with the members so far, whose next member starts here. -/
def members? : Nat → Nat → Members → List Char → Option (List Char)
  | 0, _, _, _ => none
  | fuel + 1, depth, ms, s =>
    match skipLines s.length s with
    | '\x7d' :: rest => some rest
    | s => do
      let (path, rest) ← path? s
      match skipLines rest.length rest with
      | '=' :: rest =>
        let (v, rest) ← value? fuel depth (skipLines rest.length rest)
        let ms ← Members.insert? path v ms
        match skipLines rest.length rest with
        | ',' :: rest => members? fuel depth ms rest
        | '\x7d' :: rest => some rest
        | _ => none
      | _ => none

end

/-- What follows the rest of a line, which may hold a comment. -/
def lineRest? (s : List Char) : Option (List Char) :=
  match skipComment (skipBlanks s) with
  | [] => some []
  | s => lineEnd? s

/-- Reads a header, after its brackets have been opened. -/
def header? (many : Bool) (d : Draft) (s : List Char) : Option (Draft × List Char) := do
  let (path, rest) ← path? s
  let rest ← match many, rest with
    | false, ']' :: rest => some rest
    | true, ']' :: ']' :: rest => some rest
    | _, _ => none
  let d ← d.openTable path many
  let rest ← lineRest? rest
  return (d, rest)

def member? (d : Draft) (s : List Char) : Option (Draft × List Char) := do
  let (path, rest) ← path? s
  match rest with
  | '=' :: rest =>
    let (v, rest) ← value? (s.length + 1) maxNesting (skipBlanks rest)
    let d ← d.add path v
    let rest ← lineRest? rest
    return (d, rest)
  | _ => none

/-- Reads the lines of a document; fuel bounds their number. -/
def readLines : Nat → Draft → List Char → Option Members
  | 0, _, _ => none
  | fuel + 1, d, s =>
    match skipLines s.length s with
    | [] => d.close
    | '[' :: '[' :: rest => do
      let (d, rest) ← header? true d rest
      readLines fuel d rest
    | '[' :: rest => do
      let (d, rest) ← header? false d rest
      readLines fuel d rest
    | s => do
      let (d, rest) ← member? d s
      readLines fuel d rest

/-- The members of a document, which may start with a byte order mark. -/
def read? (s : String) : Option Members :=
  let cs := match s.toList with
    | '\uFEFF' :: rest => rest
    | cs => cs
  readLines (cs.length + 1) .empty cs

end TokenConsole.Toml
