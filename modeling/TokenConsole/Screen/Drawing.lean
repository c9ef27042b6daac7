import TokenConsole.Screen.Node
import TokenConsole.Text.Lines

/-!
# Drawing

A screen is drawn in layers: the page, and over it each dialog. What a dialog covers is drawn but
does not react. A pointer goes to where a text is seen; where nothing of it is, to the corner of the
window.
-/
namespace TokenConsole.Screen

/-- What a text belongs to. -/
inductive Role (μ : Type) where
  | plain
  | input
  | button (press : Option μ)
  | pickList (entries : List (String × μ))

structure DrawnText (μ : Type) where
  lines : List (List Char)
  color : Color
  size : Nat
  weight : Weight
  mono : Bool
  role : Role μ
  covered : Bool

structure Box where
  fill : Color
  outline : Option Color
  deriving DecidableEq, Repr

inductive Item (μ : Type) where
  | text (t : DrawnText μ)
  | box (b : Box)

variable {μ : Type}

/-- The items of a screen: those of its own layer and the layers over it. -/
structure Drawing (μ : Type) where
  items : List (Item μ)
  above : List (List (Item μ))

namespace DrawnText

def ofLabel (color : Color) (role : Role μ) (l : Label) : DrawnText μ :=
  { lines := Text.lines l.content.toList, color := l.color.getD color, size := l.size,
    weight := l.weight, mono := l.mono, role, covered := false }

def content (t : DrawnText μ) : String := String.ofList (['\n'].intercalate t.lines)

/-- Whether anything of a text is seen. An input has room for one line. -/
def isSeen (t : DrawnText μ) : Bool :=
  match t.role with
  | .input => (t.lines.take 1).any Text.isSeen
  | _ => t.lines.any Text.isSeen

def isButton (t : DrawnText μ) : Bool :=
  match t.role with
  | .button _ => true
  | _ => false

def isPickList (t : DrawnText μ) : Bool :=
  match t.role with
  | .pickList _ => true
  | _ => false

end DrawnText

/-- A text is drawn unless it is empty. -/
def drawLabel (color : Color) (role : Role μ) (l : Label) : List (Item μ) :=
  let t := DrawnText.ofLabel color role l
  if t.content = "" then [] else [.text t]

def Border.outline (b : Border) : Option Color := if b.width = 0 then .none else some b.color

/-- The box of a surface, if there is anything to see of it. -/
def Surface.boxes (s : Surface) : List (Item μ) :=
  match s.background with
  | some fill => [.box ⟨fill, s.border.outline⟩]
  | none => if s.border.width = 0 then [] else [.box ⟨.clear, s.border.outline⟩]

def Item.cover : Item μ → Item μ
  | .text t => .text { t with covered := true }
  | .box b => .box b

def TextInput.draw (i : TextInput μ) : List (Item μ) :=
  let style := inputStyle i.valid .active
  let color := if i.value = "" then style.placeholder else style.value
  .box ⟨style.background, style.border.outline⟩ :: drawLabel color .input (.body i.shown)

def PickList.draw (p : PickList μ) : List (Item μ) :=
  let style := pickListStyle .active
  .box ⟨style.background, style.border.outline⟩ ::
    drawLabel style.text (.pickList p.entries) (.body (p.shown.getD ""))

def drawButton (kind : ButtonKind) (label : Label) (press : Option μ) : List (Item μ) :=
  let style := kind.style (if press.isSome then .active else .disabled)
  .box ⟨style.background, style.border.outline⟩ :: drawLabel style.text (.button press) label

namespace Node

mutual

/-- Draws a screen whose text has the given colour. -/
def draw (color : Color) : Node μ → Drawing μ
  | .text label => ⟨drawLabel color .plain label, []⟩
  | .input i => ⟨i.draw, []⟩
  | .pickList p => ⟨p.draw, []⟩
  | .button kind label press => ⟨drawButton kind label press, []⟩
  | .surface kind content =>
    let inner := drawAll (kind.style.text.getD color) content
    ⟨kind.style.boxes ++ inner.items, inner.above⟩
  | .scrolled content =>
    let inner := drawAll color content
    ⟨scrollSurface.boxes ++ inner.items, inner.above⟩
  | .group content => drawAll color content
  | .dialog base content _ =>
    let under := draw color base
    let lifted := draw color content
    ⟨under.items.map .cover,
      under.above.map (·.map .cover) ++
        (SurfaceKind.backdrop.style.boxes ++ lifted.items) :: lifted.above⟩

def drawAll (color : Color) : List (Node μ) → Drawing μ
  | [] => ⟨[], []⟩
  | n :: rest =>
    let first := draw color n
    let others := drawAll color rest
    ⟨first.items ++ others.items, first.above ++ others.above⟩

end

/-- The layers of a screen, the lowest first. -/
def layers (n : Node μ) : List (List (Item μ)) :=
  let d := n.draw textColor
  d.items :: d.above

end Node

def Item.text? : Item μ → Option (DrawnText μ)
  | .text t => some t
  | .box _ => none

def Item.box? : Item μ → Option Box
  | .text _ => none
  | .box b => some b

/-- A page and the toasts in front of it. -/
structure Picture (μ : Type) where
  page : Node μ
  toasts : Node μ

namespace Picture

/-- The layers of the toasts, of which only the buttons react. -/
def toastLayers (p : Picture μ) : List (List (Item μ)) :=
  p.toasts.layers.map fun items => items.map fun i =>
    if i.text?.any (·.isButton) then i else i.cover

/-- The layers that hold something, the lowest first. -/
def layers (p : Picture μ) : List (List (Item μ)) :=
  (p.page.layers ++ p.toastLayers).filter (!·.isEmpty)

/-- The texts that a pointer reaches. -/
def reachable (p : Picture μ) : List (DrawnText μ) :=
  (p.layers.flatten.filterMap Item.text?).filter (!·.covered)

/-- The `n`-th reachable text that reads as given; the entry that a pick list shows is not one. -/
def find? (p : Picture μ) (content : String) (n : Nat) : Option (DrawnText μ) :=
  (p.reachable.filter fun t => !t.isPickList && t.content == content)[n]?

/-- The message of a click on a text. -/
def press? (p : Picture μ) (t : DrawnText μ) : Option μ :=
  if t.covered then none
  else if !t.isSeen then p.page.outerBlur?
  else
    match t.role with
    | .button press => press
    | _ => none

/-- The message of choosing an entry of the reachable pick list that shows a text. -/
def choose? (p : Picture μ) (shown entry : String) : Option μ := do
  let entries ← (p.reachable.filter (·.content == shown)).findSome? fun t =>
    match t.role with
    | .pickList entries => some entries
    | _ => none
  entries.lookup entry

def input? (p : Picture μ) (i : Input) : Option (TextInput μ) :=
  p.page.inputs.find? (·.input == i)

end Picture

end TokenConsole.Screen
