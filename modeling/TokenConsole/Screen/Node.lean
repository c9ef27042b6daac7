import TokenConsole.Effect
import TokenConsole.Screen.Style
import TokenConsole.Text.Cluster

/-!
# What a screen is made of

A screen is a tree of texts, inputs and buttons on surfaces, where a dialog may lie over a part of
it. `μ` is the type of the messages that the parts send.
-/
namespace TokenConsole.Screen

inductive Weight where
  | regular
  | medium
  | bold
  deriving DecidableEq, Repr

def Weight.value : Weight → Nat
  | .regular => 400
  | .medium => 500
  | .bold => 700

/-- A piece of text; without a colour of its own it takes that of what it stands in. -/
structure Label where
  content : String
  size : Nat
  weight : Weight
  mono : Bool
  color : Option Color
  deriving DecidableEq, Repr

namespace Label

def heading1 (s : String) : Label := ⟨s, 36, .bold, false, none⟩

def heading3 (s : String) : Label := ⟨s, 24, .bold, false, none⟩

def heading4 (s : String) : Label := ⟨s, 20, .bold, false, none⟩

def body (s : String) : Label := ⟨s, 16, .regular, false, none⟩

def bodyMedium (s : String) : Label := ⟨s, 16, .medium, false, none⟩

def small (s : String) : Label := ⟨s, 14, .regular, false, none⟩

def smallMedium (s : String) : Label := ⟨s, 14, .medium, false, none⟩

/-- For tokens, cipher texts and keys. -/
def code (s : String) : Label := ⟨s, 14, .regular, true, none⟩

def caption (s : String) : Label := ⟨s, 12, .regular, false, none⟩

def colored (color : Color) (l : Label) : Label := { l with color := some color }

def secondary (l : Label) : Label := l.colored secondaryText

end Label

structure TextInput (μ : Type) where
  input : Input
  placeholder : String
  value : String
  /-- The characters are masked. -/
  secure : Bool
  valid : Bool
  onInput : String → μ
  onEnter : Option μ

/-- A list of entries, of which the chosen one is shown; each sends a message. -/
structure PickList (μ : Type) where
  shown : Option String
  entries : List (String × μ)

inductive Node (μ : Type) where
  | text (label : Label)
  | input (i : TextInput μ)
  | pickList (p : PickList μ)
  /-- Without a message to send, a button is disabled. -/
  | button (kind : ButtonKind) (label : Label) (press : Option μ)
  | surface (kind : SurfaceKind) (content : List (Node μ))
  | scrolled (content : List (Node μ))
  | group (content : List (Node μ))
  /-- A dialog over a part of the screen, which it covers. A press beside it sends a message. -/
  | dialog (base content : Node μ) (onBlur : μ)

variable {μ : Type}

namespace TextInput

/-- The text in an input: its value, masked if it is secret, or the placeholder. -/
def shown (i : TextInput μ) : String :=
  if i.value = "" then i.placeholder
  else if i.secure then String.ofList ((Text.clusters i.value.toList).map fun _ => '•')
  else i.value

/-- Control characters are not typed. -/
def isControl (c : Char) : Bool := c.toNat < 32 || (127 ≤ c.toNat && c.toNat < 160)

/-- The messages of typing at the end of the value. -/
def typeFrom (i : TextInput μ) (value : String) : List Char → List μ
  | [] => []
  | c :: rest =>
    if isControl c then i.typeFrom value rest
    else
      let value := value.push c
      i.onInput value :: i.typeFrom value rest

def type (i : TextInput μ) (s : String) : List μ := i.typeFrom i.value s.toList

/-- The messages of erasing characters at the end of the value. -/
def eraseFrom (i : TextInput μ) (value : String) : Nat → List μ
  | 0 => []
  | n + 1 =>
    let value := Text.dropLastCluster value
    i.onInput value :: i.eraseFrom value n

def erase (i : TextInput μ) (count : Nat) : List μ := i.eraseFrom i.value count

/-- The messages of pressing the enter key a number of times. -/
def enter (i : TextInput μ) (count : Nat) : List μ :=
  (List.replicate count i.onEnter.toList).flatten

end TextInput

namespace Node

mutual

/-- The inputs of a screen, covered ones too, in order. -/
def inputs : Node μ → List (TextInput μ)
  | .input i => [i]
  | .surface _ content => inputsOf content
  | .scrolled content => inputsOf content
  | .group content => inputsOf content
  | .dialog base content _ => inputs base ++ inputs content
  | _ => []

def inputsOf : List (Node μ) → List (TextInput μ)
  | [] => []
  | n :: rest => inputs n ++ inputsOf rest

end

/-- The message of a press beside the dialog that lies over the whole screen. -/
def outerBlur? : Node μ → Option μ
  | .dialog _ _ onBlur => some onBlur
  | _ => none

mutual

/-- The message of a press beside the outermost dialog on a screen, wherever it lies. -/
def blur? : Node μ → Option μ
  | .dialog _ _ onBlur => some onBlur
  | .surface _ content => blurOf? content
  | .scrolled content => blurOf? content
  | .group content => blurOf? content
  | _ => none

def blurOf? : List (Node μ) → Option μ
  | [] => none
  | n :: rest => (blur? n).or (blurOf? rest)

end

end Node

end TokenConsole.Screen
