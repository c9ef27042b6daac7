import TokenConsole.Effect
import TokenConsole.Gateway.Mapping
import TokenConsole.Text.Blank
import TokenConsole.Text.LowerCase
import TokenConsole.Toast

/-!
# The grid of mappings

The rows that the gateway last sent, filtered and cut into pages. Loading and deleting run in the
background; a row is deleted only after it was asked for and confirmed.
-/
namespace TokenConsole

open TokenConsole.Calendar (Zone)
open TokenConsole.Gateway (Error Flow Mapping)

inductive PageSize where
  | ten
  | twenty
  deriving DecidableEq, Repr

namespace PageSize

def all : List PageSize := [.ten, .twenty]

def rows : PageSize → Nat
  | .ten => 10
  | .twenty => 20

def label (s : PageSize) : String := s!"{s.rows} per page"

end PageSize

structure Grid where
  rows : List Mapping
  page : Nat
  pageSize : PageSize
  filter : String
  /-- How many loads have not been answered yet. -/
  pendingLoads : Nat
  /-- The ids whose deletion has not been answered yet, each once. -/
  deleting : List String
  /-- The id whose deletion waits to be confirmed. -/
  confirming : Option String
  /-- The text of the last load, if it failed. -/
  error : Option String
  deriving DecidableEq, Repr

namespace Grid

inductive Message where
  /-- The refresh button, without effect while a load is under way. -/
  | refresh
  /-- A load that the console itself asks for, never left out. -/
  | reload
  | refreshed (result : Except Error (List Mapping))
  | requestDelete (id : String)
  | confirmDelete
  | cancelDelete
  | deleted (id : String) (result : Except Error Unit)
  | pageSize (size : PageSize)
  | nextPage
  | previousPage
  | filter (text : String)
  | copyToken (id : String)

def tokenDeleted : String := "Token deleted"

def tokenCopied : String := "Token copied to clipboard"

def empty : Grid :=
  { rows := [], page := 0, pageSize := .ten, filter := "", pendingLoads := 0, deleting := [],
    confirming := none, error := none }

def isLoading (g : Grid) : Bool := 0 < g.pendingLoads

def isDeleting (g : Grid) (id : String) : Bool := g.deleting.contains id

variable [Zone]

/-- The texts of a row that the filter looks at. -/
def searched (m : Mapping) : List String := [m.id, m.cipherText, m.wrappedKey, m.ttl, m.created]

/-- Whether `part` stands somewhere in `s`. -/
def contains (part : List Char) : List Char → Bool
  | [] => part.isEmpty
  | c :: rest => part.isPrefixOf (c :: rest) || contains part rest

/-- A row matches a small-letter text if one of its columns holds it, in small letters. -/
def matchesText (needle : List Char) (m : Mapping) : Bool :=
  (searched m).any fun s => contains needle (Text.lowerChars s.toList)

/-- The rows that match the filter, letter case and outer white space apart. -/
def filtered (g : Grid) : List Mapping :=
  let needle := Text.lowerChars (Text.trimChars g.filter.toList)
  if needle = [] then g.rows else g.rows.filter (matchesText needle)

/-- The number of pages, at least one. -/
def pages (g : Grid) : Nat :=
  max 1 ((g.filtered.length + g.pageSize.rows - 1) / g.pageSize.rows)

/-- The rows of the page that is shown. -/
def visible (g : Grid) : List Mapping :=
  (g.filtered.drop (g.page * g.pageSize.rows)).take g.pageSize.rows

/-- Goes back to the last page, if there are not as many pages any more. -/
def clampPage (g : Grid) : Grid := { g with page := min g.page (g.pages - 1) }

/-- Starts a load. -/
def load (g : Grid) : Grid × List (Effect Message) :=
  ({ g with pendingLoads := g.pendingLoads + 1 },
    [.start ((Flow.ask .listMappings).map .refreshed)])

/-- Asks for the deletion of a row; the answer carries its id. -/
def deletion (id : String) : Flow Message := (Flow.ask (.deleteMapping id)).map (.deleted id)

/-- The grid after an answer to a load. -/
def showLoaded (g : Grid) : Except Error (List Mapping) → Grid
  | .ok rows => clampPage { g with pendingLoads := g.pendingLoads - 1, rows, error := none }
  | .error e => { g with pendingLoads := g.pendingLoads - 1, error := some e.message }

/-- The grid after an answer to a deletion. -/
def settleDeletion (g : Grid) (id : String) : Except Error Unit → Grid
  | .ok _ =>
    clampPage { g with deleting := g.deleting.erase id, rows := g.rows.filter (·.id != id) }
  | .error _ => { g with deleting := g.deleting.erase id }

/-- Starts the deletion that was asked for. -/
def confirm (g : Grid) : Grid × List (Effect Message) :=
  match g.confirming with
  | none => (g, [])
  | some id =>
    let g := { g with confirming := none }
    if g.isDeleting id then (g, [])
    else ({ g with deleting := g.deleting ++ [id] }, [.start (deletion id)])

/-- A grid after a message, with the toasts and the effects. -/
structure Step where
  grid : Grid
  toasts : Toasts
  effects : List (Effect Message)

def update (now : Nat) (m : Message) (g : Grid) (toasts : Toasts) : Step :=
  let quietly (r : Grid × List (Effect Message)) : Step := ⟨r.1, toasts, r.2⟩
  match m with
  | .refresh => if g.isLoading then quietly (g, []) else quietly g.load
  | .reload => quietly g.load
  | .refreshed (.ok rows) => quietly (g.showLoaded (.ok rows), [])
  | .refreshed (.error e) => ⟨g.showLoaded (.error e), toasts.add now .error e.message, []⟩
  | .requestDelete id =>
    quietly (if g.isDeleting id then g else { g with confirming := some id }, [])
  | .confirmDelete => quietly g.confirm
  | .cancelDelete => quietly ({ g with confirming := none }, [])
  | .deleted id (.ok u) => ⟨g.settleDeletion id (.ok u), toasts.add now .success tokenDeleted, []⟩
  | .deleted id (.error e) =>
    ⟨g.settleDeletion id (.error e),
      toasts.add now .error s!"Failed to delete token {id}: {e.message}", []⟩
  | .pageSize size => quietly (clampPage { g with pageSize := size }, [])
  | .nextPage => quietly (if g.page + 1 < g.pages then { g with page := g.page + 1 } else g, [])
  | .previousPage => quietly ({ g with page := g.page - 1 }, [])
  | .filter text => quietly ({ g with filter := text, page := 0 }, [])
  | .copyToken id => ⟨g, toasts.add now .success tokenCopied, [.copy id]⟩

/-- Keys reach the grid while a deletion waits to be confirmed. -/
def listensToKeys (g : Grid) : Bool := g.confirming.isSome

def sources (g : Grid) : List Source := if g.listensToKeys then [.keys] else []

def onKey (e : KeyEvent) (g : Grid) : Option Message :=
  if g.listensToKeys && !e.released && e.key = .escape then some .cancelDelete else none

end Grid

end TokenConsole
