import TokenConsole.Screen.Color

/-!
# Styles

How the parts of the screen look, by what they are for and by what the pointer does to them.
-/
namespace TokenConsole.Screen

structure Border where
  color : Color
  width : Nat
  radius : Nat
  deriving DecidableEq, Repr

def Border.none : Border := ⟨.clear, 0, 0⟩

/-- A thin line with round corners, or nothing. -/
def Border.line (radius : Nat) : Option Color → Border
  | some color => ⟨color, 1, radius⟩
  | .none => .none

/-- The colour of text that no part of the screen sets. -/
def textColor : Color := .white

/-- The colour behind everything. -/
def backgroundColor : Color := .night

/-- The colour of text of lesser weight. -/
def secondaryText : Color := .silver

/-- Colours that are set aside for surfaces and texts that the screen does not draw yet. -/
structure Reserve where
  foreground : Color
  success : Color
  error : Color
  errorCard : Color
  errorCardText : Color
  errorCardBorder : Color

def reserve : Reserve := ⟨.coal, .emerald, .crimson, .darkRed, .white, .crimson⟩

/-! ## Surfaces -/

structure Surface where
  background : Option Color
  text : Option Color
  border : Border
  deriving DecidableEq, Repr

inductive SurfaceKind where
  | plain
  | background
  | backdrop
  | card
  | dialog
  | success
  | error
  | tableHeader
  | tableRow
  | tableRowAlt
  deriving DecidableEq, Repr

def SurfaceKind.style : SurfaceKind → Surface
  | .plain => ⟨none, none, .none⟩
  | .background => ⟨some backgroundColor, none, .none⟩
  | .backdrop => ⟨some .shade, none, .none⟩
  | .card => ⟨some .coal, none, .line 12 (some .iron)⟩
  | .dialog => ⟨some .night, none, .line 12 (some .iron)⟩
  | .success => ⟨some .darkGreen, some .white, .line 8 (some .emerald)⟩
  | .error => ⟨some .darkRed, some .white, .line 8 (some .crimson)⟩
  | .tableHeader => ⟨some .slate, some .silver, { Border.none with radius := 8 }⟩
  | .tableRow => ⟨some .coal, none, .none⟩
  | .tableRowAlt => ⟨some .night, none, .none⟩

/-! ## Buttons -/

structure ButtonLook where
  background : Color
  text : Color
  border : Option Color
  deriving DecidableEq, Repr

structure ButtonStyle where
  background : Color
  text : Color
  border : Border
  deriving DecidableEq, Repr

inductive ButtonKind where
  | primary
  | secondary
  | destructive
  | transparent
  | link
  deriving DecidableEq, Repr

inductive ButtonStatus where
  | active
  | hovered
  | pressed
  | disabled
  deriving DecidableEq, Repr

/-- The looks of a button. One that is left out is the active one. -/
structure ButtonLooks where
  active : ButtonLook
  hovered : ButtonLook
  pressed : Option ButtonLook
  disabled : Option ButtonLook

def ButtonKind.looks : ButtonKind → ButtonLooks
  | .primary =>
    { active := ⟨.teal, .night, some .teal⟩, hovered := ⟨.darkTeal, .white, some .teal⟩,
      pressed := some ⟨.darkTeal, .white, some .teal⟩,
      disabled := some ⟨.lead, .silver, some .lead⟩ }
  | .secondary =>
    { active := ⟨.coal, .white, some .iron⟩, hovered := ⟨.coal, .teal, some .teal⟩,
      pressed := some ⟨.slate, .teal, some .teal⟩, disabled := none }
  | .destructive =>
    { active := ⟨.coal, .crimson, some .crimson⟩, hovered := ⟨.crimson, .white, some .crimson⟩,
      pressed := some ⟨.crimson, .white, some .crimson⟩, disabled := none }
  | .transparent =>
    { active := ⟨.clear, .silver, none⟩, hovered := ⟨.clear, .white, none⟩,
      pressed := none, disabled := none }
  | .link =>
    { active := ⟨.clear, .teal, none⟩, hovered := ⟨.clear, .white, none⟩,
      pressed := none, disabled := none }

def ButtonLooks.look (l : ButtonLooks) : ButtonStatus → ButtonLook
  | .active => l.active
  | .hovered => l.hovered
  | .pressed => l.pressed.getD l.active
  | .disabled => l.disabled.getD l.active

/-- The text of a disabled button is faded. -/
def ButtonKind.style (kind : ButtonKind) (status : ButtonStatus) : ButtonStyle :=
  let look := kind.looks.look status
  { background := look.background
    text := if status = .disabled then look.text.faded else look.text
    border := .line 8 look.border }

/-! ## Inputs -/

structure InputStyle where
  background : Color
  border : Border
  icon : Color
  placeholder : Color
  value : Color
  selection : Color
  deriving DecidableEq, Repr

inductive InputStatus where
  | active
  | hovered
  | focused
  | disabled
  deriving DecidableEq, Repr

/-- The input with the focus is outlined in the accent colour, whether its value is valid or not. -/
def inputStyle (valid : Bool) (status : InputStatus) : InputStyle :=
  let outline : Color := match status with
    | .focused => .teal
    | .disabled => if valid then .slate else .crimson
    | _ => if valid then .iron else .crimson
  let disabled := status = .disabled
  { background := if disabled then .slate else .coal
    border := .line 8 (some outline)
    icon := .clear
    placeholder := if disabled then .lead else .ash
    value := if disabled then .ash else .white
    selection := .darkTeal }

/-! ## Pick lists -/

structure PickListStyle where
  background : Color
  border : Border
  text : Color
  placeholder : Color
  handle : Color
  deriving DecidableEq, Repr

inductive PickListStatus where
  | active
  | hovered
  | opened
  deriving DecidableEq, Repr

/-- A pick list looks like a secondary button. -/
def pickListStyle (status : PickListStatus) : PickListStyle :=
  let button := ButtonKind.secondary.style (if status = .active then .active else .hovered)
  { background := button.background, border := button.border, text := button.text,
    placeholder := secondaryText, handle := button.text }

structure MenuStyle where
  background : Color
  border : Border
  text : Color
  selectedText : Color
  selectedBackground : Color
  deriving DecidableEq, Repr

/-- The menu that a pick list opens. -/
def menuStyle : MenuStyle :=
  { background := .coal, border := .line 8 (some .iron), text := textColor,
    selectedText := (ButtonKind.secondary.style .hovered).text,
    selectedBackground := (ButtonKind.secondary.style .pressed).background }

/-! ## Scrolled parts -/

inductive ScrollStatus where
  | active
  | hovered
  | dragged
  deriving DecidableEq, Repr

structure RailStyle where
  background : Option Color
  border : Border
  scroller : Color
  scrollerBorder : Border
  deriving DecidableEq, Repr

/-- What scrolls stands on a clear surface. -/
def scrollSurface : Surface := ⟨some .clear, none, .none⟩

def railStyle (status : ScrollStatus) : RailStyle :=
  { background := none, border := .none,
    scroller := if status = .active then .iron else secondaryText,
    scrollerBorder := { Border.none with radius := 4 } }

end TokenConsole.Screen
