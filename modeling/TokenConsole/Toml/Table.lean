import TokenConsole.Toml.Scalar

/-!
# TOML tables

A document fills a tree of tables. What may be added to a table depends on how it came to be: by a
header of its own, on the way to the header of another one, or by a dotted key.
-/
namespace TokenConsole.Toml

inductive Value where
  | text (s : String)
  | scalar (s : Scalar)
  /-- An array; nothing asks for its items. -/
  | array
  /-- A table in braces; nothing can be added to it, and nothing asks for its members. -/
  | table
  deriving DecidableEq, Repr

inductive Origin where
  | header
  | onTheWay
  | dotted
  deriving DecidableEq, Repr

inductive Node where
  | value (v : Value)
  | table (origin : Origin) (members : List (String × Node))
  /-- An array of tables, of which only the last one can still grow. -/
  | tables (last : List (String × Node))

abbrev Members := List (String × Node)

namespace Members

/-- Puts a node under a key, in place of the one that was there. -/
def put (key : String) (node : Node) : List (String × Node) → List (String × Node)
  | [] => [(key, node)]
  | (k, n) :: rest => if k = key then (k, node) :: rest else (k, n) :: put key node rest

/-- Changes the members of the table at a path. Tables that are missing are made, as `origin`
says. A dotted key does not lead into a table with a header. -/
def changeAt (origin : Origin) (change : Origin → Members → Option Members) :
    List String → Origin → Members → Option Members
  | [], here, ms => change here ms
  | key :: path, _, ms =>
    match ms.lookup key with
    | none => (changeAt origin change path origin []).map fun t => put key (.table origin t) ms
    | some (.table o t) =>
      if origin = .dotted ∧ o = .header then none
      else (changeAt origin change path o t).map fun t => put key (.table o t) ms
    | some (.tables t) =>
      (changeAt origin change path .header t).map fun t => put key (.tables t) ms
    | some (.value _) => none

/-- Adds a value under a key. The last table on the way has to be a dotted one, unless it is the
table that the key stands in. -/
def insert? (path : List String) (v : Value) (ms : Members) : Option Members :=
  match path.getLast? with
  | none => none
  | some key =>
    let way := path.dropLast
    let add (here : Origin) (t : Members) : Option Members :=
      if (here = .dotted) = (way = []) then none
      else if (t.lookup key).isSome then none
      else some (put key (.value v) t)
    changeAt .dotted add way .header ms

end Members

/-- A document up to a point: the tables so far, and the one that is being filled. -/
structure Draft where
  root : Members
  /-- The header of the table that is being filled, and whether it is one of an array. -/
  header : Option (List String × Bool)
  current : Members

namespace Draft

def empty : Draft := ⟨[], none, []⟩

/-- Puts the table that is being filled in its place. -/
def close (d : Draft) : Option Members :=
  match d.header with
  | none => some d.current
  | some (path, many) =>
    match path.getLast? with
    | none => none
    | some key =>
      let node : Node := if many then .tables d.current else .table .header d.current
      Members.changeAt .onTheWay (fun _ t => some (Members.put key node t)) path.dropLast .header
        d.root

/-- The table at a header that may be filled: a new one, or one that was only on the way. -/
def reopened? (many : Bool) : Option Node → Option Members
  | none => some []
  | some (.table .onTheWay t) => if many then none else some t
  | some (.tables _) => if many then some [] else none
  | _ => none

/-- The node at the end of a path of tables. -/
def nodeAt? : List String → Members → Option Node
  | [], _ => none
  | [key], ms => ms.lookup key
  | key :: path, ms =>
    match ms.lookup key with
    | some (.table _ t) => nodeAt? path t
    | some (.tables t) => nodeAt? path t
    | _ => none

/-- Starts the table of a header. -/
def openTable (path : List String) (many : Bool) (d : Draft) : Option Draft := do
  let root ← d.close
  let root ← Members.changeAt .onTheWay (fun _ t => some t) path.dropLast .header root
  let current ← reopened? many (nodeAt? path root)
  return ⟨root, some (path, many), current⟩

def add (path : List String) (v : Value) (d : Draft) : Option Draft :=
  (Members.insert? path v d.current).map fun current => { d with current }

end Draft

end TokenConsole.Toml
