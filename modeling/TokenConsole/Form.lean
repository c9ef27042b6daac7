import TokenConsole.Dictionary

/-!
# Forms

The fields of a dialog. A field may depend on a select field: it is shown while that field holds a
given value, and it is cleared when it is hidden. A field is named by its position in the form.
-/
namespace TokenConsole

/-- The values of a form by field name, as handed to the action of a dialog. -/
abbrev Payload := Dictionary String

/-- An entry of a select field. -/
structure Choice where
  value : String
  label : String
  deriving DecidableEq, Repr

inductive FieldKind where
  | text
  | password
  | select (choices : List Choice)
  deriving DecidableEq, Repr

structure Field where
  name : String
  label : String
  placeholder : String
  kind : FieldKind
  value : String
  valid : Bool
  visible : Bool
  /-- The value of a fresh form. -/
  initial : String
  /-- The field is shown only while the field of the first name holds the second text. -/
  shownWhen : Option (String × String)
  deriving DecidableEq, Repr

namespace Field

def ofKind (kind : FieldKind) (name label : String) : Field :=
  { name, label, placeholder := "", kind, value := "", valid := true, visible := true,
    initial := "", shownWhen := none }

def text (name label : String) : Field := ofKind .text name label

def password (name label : String) : Field := ofKind .password name label

/-- A select field starts out at its first choice. -/
def select (name label : String) (choices : List Choice) : Field :=
  let first := match choices with
    | [] => ""
    | c :: _ => c.value
  { ofKind (.select choices) name label with value := first, initial := first }

def isTextInput (f : Field) : Bool :=
  match f.kind with
  | .text | .password => true
  | .select _ => false

/-- The choice that a select field holds, if its value is one of them. -/
def selected (f : Field) : Option Choice :=
  match f.kind with
  | .select choices => choices.find? (·.value == f.value)
  | _ => none

/-- The field as of a fresh form, its visibility apart. -/
def reset (f : Field) : Field := { f with value := f.initial, valid := true }

/-- Whether a field belongs on the screen, given the values of all fields. -/
def isShown (values : Payload) (f : Field) : Bool :=
  match f.shownWhen with
  | none => f.visible
  | some (name, expected) => values.get? name == some expected

/-- Shows or hides a field that depends on another one. A hidden field is cleared. -/
def adjust (values : Payload) (f : Field) : Field :=
  match f.shownWhen with
  | none => f
  | some _ =>
    if f.isShown values then { f with visible := true }
    else { f with visible := false, value := "", valid := true }

end Field

structure Form where
  fields : List Field
  /-- The name of the field that must not be blank. -/
  required : String
  deriving DecidableEq, Repr

namespace Form

/-- Applies `f` to the first field of a name. -/
def modifyFirst (name : String) (f : Field → Field) : List Field → List Field
  | [] => []
  | x :: rest => if x.name = name then f x :: rest else x :: modifyFirst name f rest

/-- The values of all fields, hidden ones too. Of fields that share a name the last one counts. -/
def payload (form : Form) : Payload :=
  Dictionary.ofList (form.fields.map fun f => (f.name, f.value))

def field? (form : Form) (name : String) : Option Field :=
  form.fields.find? (·.name == name)

/-- The position of the first field of a name. -/
def position? (form : Form) (name : String) : Option Nat :=
  form.fields.findIdx? (·.name == name)

def required? (form : Form) : Option Field := form.field? form.required

/-- Shows and hides the fields that depend on others, going by the values that they all hold
beforehand. -/
def adjust (form : Form) : Form :=
  { form with fields := form.fields.map (·.adjust form.payload) }

/-- The last field that adjusting the form will reveal. -/
def revealed? (form : Form) : Option Nat :=
  let hits := form.fields.zipIdx.filter fun (f, _) => !f.visible && f.isShown form.payload
  hits.getLast?.map (·.2)

/-- Every field at its initial value. -/
def reset (form : Form) : Form :=
  adjust { form with fields := form.fields.map Field.reset }

def ofFields (fields : List Field) (required : String) : Form := reset ⟨fields, required⟩

/-- The form with a new value in the first field of a name, before other fields react. -/
def put (name value : String) (form : Form) : Form :=
  { form with
    fields := modifyFirst name (fun f => { f with value := value, valid := true }) form.fields }

/-- Sets a value. Gives the form and the position of the field that the change reveals. -/
def set (name value : String) (form : Form) : Form × Option Nat :=
  match form.field? name with
  | none => (form, none)
  | some _ =>
    let changed := form.put name value
    (changed.adjust, changed.revealed?)

def invalidate (name : String) (form : Form) : Form :=
  { form with fields := modifyFirst name (fun f => { f with valid := false }) form.fields }

/-- The positions of the text inputs on the screen, in order. -/
def focusRing (form : Form) : List Nat :=
  (form.fields.zipIdx.filter fun (f, _) => f.visible && f.isTextInput).map (·.2)

end Form

end TokenConsole
