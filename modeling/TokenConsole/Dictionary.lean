/-!
# Dictionaries

Values under text keys, in the order of the keys, each key once. Keys compare by code point.
-/
namespace TokenConsole

/-- Entries in increasing order of their keys. -/
abbrev Dictionary (α : Type) := List (String × α)

namespace Dictionary

variable {α : Type}

/-- Puts a value under a key, in place of the one that was there. -/
def insert (key : String) (value : α) : Dictionary α → Dictionary α
  | [] => [(key, value)]
  | (k, v) :: rest =>
    if key = k then (key, value) :: rest
    else if key < k then (key, value) :: (k, v) :: rest
    else (k, v) :: insert key value rest

/-- Of several values under one key the last one counts. -/
def ofList (entries : List (String × α)) : Dictionary α :=
  entries.foldl (fun d e => insert e.1 e.2 d) []

def get? (d : Dictionary α) (key : String) : Option α := d.lookup key

end Dictionary

end TokenConsole
