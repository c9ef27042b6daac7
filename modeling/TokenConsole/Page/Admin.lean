import TokenConsole.Grid
import TokenConsole.Tokens

/-!
# The admin page

The grid of mappings and two dialogs, of which opening one closes the other. A new token makes the
grid load again.
-/
namespace TokenConsole

open TokenConsole.Calendar (Zone)

structure AdminPage where
  tokenize : Dialog String
  detokenize : Dialog String
  grid : Grid

namespace AdminPage

inductive Message where
  | openTokenize
  | openDetokenize
  | tokenize (m : Dialog.Message String)
  | detokenize (m : Dialog.Message String)
  | grid (m : Grid.Message)
  /-- For the console, which ends the session. -/
  | logout

/-- A new page, which starts to load the mappings. -/
def fresh : AdminPage × List (Effect Message) :=
  let (grid, effects) := Grid.empty.load
  (⟨Tokens.tokenizeDialog, Tokens.detokenizeDialog, grid⟩, effects.map (·.map .grid))

/-- An admin page after a message, with the toasts and the effects. -/
structure Step where
  page : AdminPage
  toasts : Toasts
  effects : List (Effect Message)

def update [Zone] (now : Nat) (m : Message) (p : AdminPage) (toasts : Toasts) : Step :=
  match m with
  | .openTokenize =>
    let (tokenize, effects) := p.tokenize.openWith (some .filter)
    ⟨{ p with tokenize, detokenize := p.detokenize.close.1 }, toasts,
      effects.map (·.map .tokenize)⟩
  | .openDetokenize =>
    let (detokenize, effects) := p.detokenize.openWith (some .filter)
    ⟨{ p with detokenize, tokenize := p.tokenize.close.1 }, toasts,
      effects.map (·.map .detokenize)⟩
  | .tokenize m =>
    let s := p.tokenize.update now m toasts
    let effects := s.effects.map (·.map .tokenize)
    match s.outcome with
    | none => ⟨{ p with tokenize := s.dialog }, s.toasts, effects⟩
    | some _ =>
      let r := p.grid.update now .reload s.toasts
      ⟨{ p with tokenize := s.dialog, grid := r.grid }, r.toasts,
        effects ++ r.effects.map (·.map .grid)⟩
  | .detokenize m =>
    let s := p.detokenize.update now m toasts
    ⟨{ p with detokenize := s.dialog }, s.toasts, s.effects.map (·.map .detokenize)⟩
  | .grid m =>
    let s := p.grid.update now m toasts
    ⟨{ p with grid := s.grid }, s.toasts, s.effects.map (·.map .grid)⟩
  | .logout => ⟨p, toasts, []⟩

def sources (p : AdminPage) : List Source :=
  p.tokenize.sources ++ p.detokenize.sources ++ p.grid.sources

/-- What a key press means to each of the dialogs and to the grid. -/
def onKey (e : KeyEvent) (p : AdminPage) : List Message :=
  ((p.tokenize.onKey e).map .tokenize).toList ++
    ((p.detokenize.onKey e).map .detokenize).toList ++ ((p.grid.onKey e).map .grid).toList

end AdminPage

end TokenConsole
