import TokenConsole.Screen.View

/-!
# What stands on a screen

The texts, the buttons, the inputs and the table rows of a screen in their order, whether a dialog
covers them or not.
-/
namespace TokenConsole.Screen

variable {μ ν β : Type}

/-- A button as it is drawn. -/
structure Button (μ : Type) where
  kind : ButtonKind
  label : Label
  press : Option μ

/-- What a control sends for a message: nothing, if the message is ignored. -/
noncomputable def offer (Ignored : ν → Prop) (lift : ν → μ) (m : ν) : Option μ :=
  open Classical in if Ignored m then none else some (lift m)

theorem offer_eq {Ignored : ν → Prop} {m : ν} {blocked : Prop} [Decidable blocked]
    (h : Ignored m ↔ blocked) (lift : ν → μ) :
    offer Ignored lift m = if blocked then none else some (lift m) := by
  by_cases hb : blocked
  · rw [offer, if_pos (h.2 hb), if_pos hb]
  · rw [offer, if_neg fun hi => hb (h.1 hi), if_neg hb]

/-- Where each part holds nothing of a kind, the whole holds nothing of it. -/
@[simp] theorem flatMap_nothing {α : Type} (xs : List α) :
    xs.flatMap (fun _ => ([] : List β)) = [] :=
  List.flatMap_eq_nil_iff.2 fun _ _ => rfl

/-- A part offers what the whole does, if both ignore the same. -/
theorem offer_congr {κ : Type} {Ignored : ν → Prop} {Ignored' : κ → Prop} {part : κ → ν} {m : κ}
    (h : Ignored (part m) ↔ Ignored' m) (lift : ν → μ) :
    offer Ignored lift (part m) = offer Ignored' (fun k => lift (part k)) m := by
  unfold offer
  rw [propext h]

namespace Node

mutual

/-- What `pick` makes of the nodes of a screen, covered ones too, in order. -/
def collect (pick : Node μ → Option β) : Node μ → List β
  | .surface kind content => (pick (.surface kind content)).toList ++ collectAll pick content
  | .scrolled content => (pick (.scrolled content)).toList ++ collectAll pick content
  | .group content => (pick (.group content)).toList ++ collectAll pick content
  | .dialog base content onBlur =>
    (pick (.dialog base content onBlur)).toList ++ collect pick base ++ collect pick content
  | n => (pick n).toList

def collectAll (pick : Node μ → Option β) : List (Node μ) → List β
  | [] => []
  | n :: rest => collect pick n ++ collectAll pick rest

end

def label? : Node μ → Option Label
  | .text label => some label
  | _ => none

def button? : Node μ → Option (Button μ)
  | .button kind label press => some ⟨kind, label, press⟩
  | _ => none

def input? : Node μ → Option (TextInput μ)
  | .input i => some i
  | _ => none

/-- The cells of a table row. -/
def tableRow? : Node μ → Option (List (Node μ))
  | .surface .tableRow cells => some cells
  | .surface .tableRowAlt cells => some cells
  | _ => none

/-- The texts that stand on their own. -/
def labels (n : Node μ) : List Label := n.collect label?

def buttons (n : Node μ) : List (Button μ) := n.collect button?

def tableRows (n : Node μ) : List (List (Node μ)) := n.collect tableRow?

@[simp] theorem collectAll_eq (pick : Node μ → Option β) (ns : List (Node μ)) :
    collectAll pick ns = ns.flatMap (collect pick) := by
  induction ns with
  | nil => rfl
  | cons n rest ih => rw [collectAll, ih, List.flatMap_cons]

mutual

/-- The inputs of a screen are collected from it like its other parts. -/
theorem inputs_eq (n : Node μ) : n.inputs = n.collect input? := by
  cases n with
  | surface kind content => exact inputsOf_eq content
  | scrolled content => exact inputsOf_eq content
  | group content => exact inputsOf_eq content
  | dialog base content onBlur =>
    rw [inputs, inputs_eq base, inputs_eq content]
    rfl
  | _ => rfl

theorem inputsOf_eq (ns : List (Node μ)) : inputsOf ns = collectAll input? ns := by
  cases ns with
  | nil => rfl
  | cons n rest => rw [inputsOf, inputs_eq n, inputsOf_eq rest, collectAll]

end

/-- A choice of nodes that leaves out what is only there to hold others, and in which the shade of a
table row means nothing. -/
structure SkipsFrames (pick : Node μ → Option β) : Prop where
  surface : ∀ kind content, kind ≠ .tableRow → kind ≠ .tableRowAlt →
    pick (.surface kind content) = none
  tableRowAlt : ∀ cells, pick (.surface .tableRowAlt cells) = pick (.surface .tableRow cells)
  scrolled : ∀ content, pick (.scrolled content) = none
  group : ∀ content, pick (.group content) = none
  dialog : ∀ base content onBlur, pick (.dialog base content onBlur) = none

theorem skipsFrames_label : SkipsFrames (label? (μ := μ)) :=
  ⟨fun _ _ _ _ => rfl, fun _ => rfl, fun _ => rfl, fun _ => rfl, fun _ _ _ => rfl⟩

theorem skipsFrames_button : SkipsFrames (button? (μ := μ)) :=
  ⟨fun _ _ _ _ => rfl, fun _ => rfl, fun _ => rfl, fun _ => rfl, fun _ _ _ => rfl⟩

theorem skipsFrames_input : SkipsFrames (input? (μ := μ)) :=
  ⟨fun _ _ _ _ => rfl, fun _ => rfl, fun _ => rfl, fun _ => rfl, fun _ _ _ => rfl⟩

theorem skipsFrames_tableRow : SkipsFrames (tableRow? (μ := μ)) := by
  refine ⟨fun kind content h h' => ?_, fun _ => rfl, fun _ => rfl, fun _ => rfl, fun _ _ _ => rfl⟩
  cases kind with
  | tableRow => exact absurd rfl h
  | tableRowAlt => exact absurd rfl h'
  | _ => rfl

@[simp] theorem collect_busyButton (pick : Node μ → Option β) (label busyLabel : String)
    (busy : Bool) (press : μ) : (busyButton label busyLabel busy press).collect pick =
      (pick (.button .primary (.bodyMedium (if busy then busyLabel else label))
        (if busy then none else some press))).toList := by
  cases busy <;> rfl

theorem collect_notice {pick : Node μ → Option β} (hp : SkipsFrames pick) (tone : Tone)
    (text : String) : (notice tone text).collect pick = (pick (.text (.small text))).toList := by
  cases tone <;> simp [notice, collect, hp.surface]

end Node

end TokenConsole.Screen
