import TokenConsole.Console
import TokenConsole.Screen.Drawing
import TokenConsole.Text.Ellipsis

/-!
# The pages of the console

What the screen shows for a state of the console.
-/
namespace TokenConsole

open TokenConsole.Calendar (Zone)
open TokenConsole.Screen
open TokenConsole.Gateway (Mapping)

variable {μ : Type}

/-- A button that shows `busyLabel` and does nothing while it is busy. -/
def Screen.Node.busyButton (label busyLabel : String) (busy : Bool) (press : μ) : Node μ :=
  if busy then .button .primary (.bodyMedium busyLabel) none
  else .button .primary (.bodyMedium label) (some press)

/-- The title of a dialog with the button that closes it. -/
def Screen.Node.titleBar (title : String) (close : μ) : List (Node μ) :=
  [.text (.heading4 title), .button .transparent (.body "×") (some close)]

/-- A message on a surface of its own. -/
def Screen.Node.notice (tone : Tone) (text : String) : Node μ :=
  .surface (match tone with
    | .success => .success
    | .error => .error) [.text (.small text)]

namespace Dialog

variable {α : Type}

def fieldView (d : Dialog α) (lift : Message α → μ) (position : Nat) (f : Field) : List (Node μ) :=
  let label : Node μ := .text (Label.smallMedium f.label).secondary
  match f.kind with
  | .select choices =>
    [label, .pickList ⟨f.selected.map (·.label),
      choices.map fun c => (c.label, lift (.select f.name c))⟩]
  | kind =>
    let input : TextInput μ :=
      { input := .field d.name position, placeholder := f.placeholder, value := f.value,
        secure := kind = .password, valid := f.valid,
        onInput := fun value => lift (.input f.name value), onEnter := some (lift .submit) }
    let warning : List (Node μ) :=
      if f.valid then [] else [.text ((Label.caption blankField).colored .crimson)]
    label :: .input input :: warning

def content (d : Dialog α) (lift : Message α → μ) : Node μ :=
  let shown := d.form.fields.zipIdx.filter (·.1.visible)
  let notice := match d.inline with
    | some i => [Node.notice i.tone i.text]
    | none => []
  .surface .dialog
    (Node.titleBar d.title (lift .close) ++
      shown.flatMap (fun (f, position) => d.fieldView lift position f) ++ notice ++
      [.button .secondary (.body "Cancel") (some (lift .close)),
        .busyButton d.submitLabel "Please wait..." d.isSubmitting (lift .submit)])

/-- Draws an open dialog over a part of the screen. -/
def drawOver (d : Dialog α) (lift : Message α → μ) (base : Node μ) : Node μ :=
  if d.isOpen then .dialog base (d.content lift) (lift .close) else base

end Dialog

namespace Grid

/-- The most characters that a cell shows. -/
def cellWidth : Nat := 24

def columns : List String :=
  ["Token", "Cipher text", "Wrapped key", "Time to live", "Created at", ""]

def cell (s : String) : Label := .code (Text.ellipsize cellWidth s)

variable [Zone]

def rowView (g : Grid) (lift : Message → μ) (index : Nat) (m : Mapping) : Node μ :=
  let deleting := g.isDeleting m.id
  .surface (if index % 2 = 0 then .tableRow else .tableRowAlt) [
    .button .link (cell m.id) (some (lift (.copyToken m.id))),
    .text (cell m.cipherText),
    .text (cell m.wrappedKey),
    .text (.small m.ttl),
    .text (.small m.created),
    if deleting then .button .destructive (.body "Deleting") none
    else .button .destructive (.body "Delete") (some (lift (.requestDelete m.id)))]

def pagerView (g : Grid) (lift : Message → μ) : List (Node μ) := [
  .text (Label.small s!"{g.filtered.length} rows").secondary,
  .button .secondary (.body "<") (if 0 < g.page then some (lift .previousPage) else none),
  .text (.small s!"Page {g.page + 1} of {g.pages}"),
  .button .secondary (.body ">") (if g.page + 1 < g.pages then some (lift .nextPage) else none)]

def confirmView (id : String) (lift : Message → μ) : Node μ :=
  .surface .dialog (Node.titleBar "Delete token" (lift .cancelDelete) ++ [
    .text (.body s!"The token {id} will be deleted. This cannot be undone."),
    .button .secondary (.body "Cancel") (some (lift .cancelDelete)),
    .button .destructive (.body "Delete") (some (lift .confirmDelete))])

def toolbarView (g : Grid) (lift : Message → μ) : List (Node μ) := [
  .input { input := .filter, placeholder := "Filter", value := g.filter, secure := false,
           valid := true, onInput := fun s => lift (.filter s), onEnter := none },
  .pickList ⟨some g.pageSize.label, PageSize.all.map fun s => (s.label, lift (.pageSize s))⟩,
  .busyButton "Refresh" "Loading..." g.isLoading (lift .refresh)]

def bannerView (g : Grid) : List (Node μ) :=
  match g.error with
  | some e => [Node.notice .error e]
  | none => []

/-- What is drawn in place of the rows if there are none to show. -/
def noTokens : Label := (Label.body "No tokens").secondary

def tableView (g : Grid) (lift : Message → μ) : List (Node μ) :=
  let header : Node μ := .surface .tableHeader (columns.map fun s => .text (.smallMedium s))
  let rows := g.visible
  let body : Node μ :=
    if rows = [] then .text noTokens
    else .scrolled (rows.zipIdx.map fun (m, i) => g.rowView lift i m)
  [header, body]

def view (g : Grid) (lift : Message → μ) : Node μ :=
  let content : Node μ :=
    .group (g.toolbarView lift ++ g.bannerView ++ g.tableView lift ++ g.pagerView lift)
  match g.confirming with
  | some id => .dialog content (confirmView id lift) (lift .cancelDelete)
  | none => content

end Grid

def LoginPage.view (p : LoginPage) (lift : LoginPage.Message → μ) : Node μ :=
  let card : Node μ := .surface .card [
    .text (.heading1 "Anonix"),
    .text (Label.body "Tokenization gateway console").secondary,
    .button .primary (.bodyMedium "Sign in") (some (lift .openSignIn)),
    .button .secondary (.body "Sign up") (some (lift .openSignUp))]
  p.signUp.drawOver (fun m => lift (.signUp m))
    (p.signIn.drawOver (fun m => lift (.signIn m)) (.surface .background [card]))

def AdminPage.view [Zone] (p : AdminPage) (lift : AdminPage.Message → μ) : Node μ :=
  let bar : List (Node μ) := [
    .text (.heading3 "Tokens"),
    .button .primary (.bodyMedium "Tokenize") (some (lift .openTokenize)),
    .button .secondary (.body "Detokenize") (some (lift .openDetokenize)),
    .button .transparent (.body "Logout") (some (lift .logout))]
  let grid := p.grid.view fun m => lift (.grid m)
  p.detokenize.drawOver (fun m => lift (.detokenize m))
    (p.tokenize.drawOver (fun m => lift (.tokenize m)) (.surface .background (bar ++ [grid])))

def Toasts.view (ts : Toasts) (lift : Toasts.Message → μ) : Node μ :=
  .group (ts.items.map fun t =>
    .surface (match t.tone with
      | .success => .success
      | .error => .error) [
      .text (.small t.text),
      .button .transparent (.body "×") (some (lift (.dismiss t.id)))])

def Console.view [Zone] (c : Console) : Picture Console.Message :=
  { page := match c.page with
      | .login p => p.view .login
      | .admin p => p.view .admin
    toasts := c.toasts.view .toast }

end TokenConsole
