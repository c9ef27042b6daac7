import TokenConsole.Proofs.Dialog.Submission
import TokenConsole.Proofs.Screen.Parts
import TokenConsole.Proofs.Screen.Reach

/-!
# A dialog as it is drawn

The inputs and the buttons of a drawn dialog, and the messages that it sends. The focus moves
through the inputs in the order in which they are drawn.
-/
namespace TokenConsole.Dialog

open TokenConsole.Screen (Button Label Node offer offer_eq)

variable {α μ β : Type} (d : Dialog α) (lift : Message α → μ)

section

variable {pick : Node μ → Option β} (hp : Node.SkipsFrames pick)

include hp

theorem collect_content : (d.content lift).collect pick =
    (Node.titleBar d.title (lift .close)).flatMap (Node.collect pick) ++
      (d.form.fields.zipIdx.filter (·.1.visible)).flatMap (fun x =>
        (d.fieldView lift x.2 x.1).flatMap (Node.collect pick)) ++
      d.inline.toList.flatMap (fun i => (pick (.text (.small i.text))).toList) ++
      (pick (.button .secondary (.body "Cancel") (some (lift .close)))).toList ++
      (pick (.button .primary
        (.bodyMedium (if d.isSubmitting then "Please wait..." else d.submitLabel))
        (if d.isSubmitting then none else some (lift .submit)))).toList := by
  have hframe : ∀ cells, pick (.surface .dialog cells) = none :=
    fun cells => hp.surface _ cells (by decide) (by decide)
  unfold content
  cases d.inline <;>
    simp [Node.collect, hframe, List.flatMap_assoc, Node.collect_notice hp]

theorem collect_drawOver (base : Node μ) : (d.drawOver lift base).collect pick =
    base.collect pick ++ if d.isOpen then (d.content lift).collect pick else [] := by
  unfold drawOver
  by_cases h : d.isOpen = true <;> simp [h, Node.collect, hp.dialog]

end

/-- What is kept of the members that pass two tests. -/
theorem flatMap_filter_ite {γ : Type} (xs : List γ) (p q : γ → Bool) (f : γ → β) :
    (xs.filter p).flatMap (fun x => if q x then [f x] else []) =
      (xs.filter fun x => p x && q x).map f := by
  induction xs with
  | nil => rfl
  | cons x xs ih => cases hp : p x <;> cases hq : q x <;> simp [hp, hq, ih]

theorem inputs_fieldView (position : Nat) (f : Field) :
    ((d.fieldView lift position f).flatMap (Node.collect Node.input?)).map (·.input) =
      if f.isTextInput then [.field d.name position] else [] := by
  unfold fieldView Field.isTextInput
  cases f.kind with
  | select choices => rfl
  | text => cases f.valid <;> rfl
  | password => cases f.valid <;> rfl

/-- The inputs of a dialog are those that the focus moves through. -/
theorem inputs_content :
    (d.content lift).inputs.map (·.input) = d.form.focusRing.map (.field d.name) := by
  have hfields : ((d.form.fields.zipIdx.filter (·.1.visible)).flatMap fun x =>
      (d.fieldView lift x.2 x.1).flatMap (Node.collect Node.input?)).map (·.input) =
        d.form.focusRing.map (.field d.name) := by
    rw [List.map_flatMap]
    simp only [inputs_fieldView]
    rw [flatMap_filter_ite, Form.focusRing, List.map_map]
    rfl
  rw [← hfields, Node.inputs_eq, d.collect_content lift Node.skipsFrames_input]
  simp [Node.titleBar, Node.collect, Node.input?]

/-- A field is made of texts, inputs and pick lists. -/
theorem collect_fieldView_eq_nil {pick : Node μ → Option β} (ht : ∀ l, pick (.text l) = none)
    (hi : ∀ i, pick (.input i) = none) (hl : ∀ l, pick (.pickList l) = none) (position : Nat)
    (f : Field) : (d.fieldView lift position f).flatMap (Node.collect pick) = [] := by
  unfold fieldView
  cases f.kind with
  | select choices => simp [Node.collect, ht, hl]
  | text => cases f.valid <;> simp [Node.collect, ht, hi]
  | password => cases f.valid <;> simp [Node.collect, ht, hi]

theorem tableRows_content : (d.content lift).tableRows = [] := by
  have hfield : ∀ position f,
      (d.fieldView lift position f).flatMap (Node.collect Node.tableRow?) = [] :=
    d.collect_fieldView_eq_nil lift (fun _ => rfl) (fun _ => rfl) fun _ => rfl
  rw [Node.tableRows, d.collect_content lift Node.skipsFrames_tableRow]
  simp [Node.titleBar, Node.collect, Node.tableRow?, hfield]

/-! ### What is ignored -/

/-- A dialog ignores a message that changes nothing, asks for nothing and reports nothing. -/
def Ignores [Outcome α] (now : Nat) (toasts : Toasts) (m : Message α) : Prop :=
  d.update now m toasts = ⟨d, toasts, [], none⟩

/-- The focus finds its way to a required field that is blank. -/
theorem position?_of_blankRequired {form : Form} {f : Field} (h : blankRequired? form = some f) :
    ∃ position, form.position? f.name = some position := by
  have hf : form.field? form.required = some f := (Option.filter_eq_some_iff.1 h).1
  have hmem : f ∈ form.fields := List.mem_of_find?_eq_some hf
  refine Option.isSome_iff_exists.1 ?_
  rw [Form.position?, List.findIdx?_isSome, List.any_eq_true]
  exact ⟨f, hmem, beq_self_eq_true f.name⟩

/-- A refused submission moves the focus, so it is not ignored. -/
theorem submit_ne_self {d : Dialog α} (ho : d.isOpen = true) (hs : d.isSubmitting = false)
    (now : Nat) : d.submit now ≠ (d, []) := by
  simp only [submit, ho, hs, Bool.not_true, Bool.or_self, Bool.false_eq_true, if_false]
  cases hb : blankRequired? d.form with
  | none =>
    intro he
    have hsubmitting : true = d.isSubmitting := congrArg (·.1.isSubmitting) he
    exact Bool.noConfusion (hsubmitting.trans hs)
  | some f =>
    obtain ⟨position, hp⟩ := position?_of_blankRequired hb
    simp [hp, focusOn]

theorem submit_eq_self_iff (now : Nat) :
    d.submit now = (d, []) ↔ d.isOpen = true → d.isSubmitting = true := by
  constructor
  · intro he ho
    cases hs : d.isSubmitting with
    | true => rfl
    | false => exact absurd he (submit_ne_self ho hs now)
  · exact fun h => submit_of_blocked h now

theorem ignores_submit_iff [Outcome α] (now : Nat) (toasts : Toasts) :
    d.Ignores now toasts .submit ↔ (d.isOpen = true → d.isSubmitting = true) := by
  rw [← d.submit_eq_self_iff now]
  simp [Ignores, update, Prod.ext_iff]

/-! ### Buttons -/

/-- The buttons of an open dialog; `send` is what the last one sends. -/
def controls (send : Option μ) : List (Button μ) :=
  if d.isOpen then
    [⟨.transparent, .body "×", some (lift .close)⟩,
      ⟨.secondary, .body "Cancel", some (lift .close)⟩,
      ⟨.primary, .bodyMedium (if d.isSubmitting then "Please wait..." else d.submitLabel), send⟩]
  else []

theorem buttons_drawOver [Outcome α] (now : Nat) (toasts : Toasts) (base : Node μ) :
    (d.drawOver lift base).buttons =
      base.buttons ++ d.controls lift (offer (d.Ignores now toasts) lift .submit) := by
  have hfield : ∀ position f,
      (d.fieldView lift position f).flatMap (Node.collect Node.button?) = [] :=
    d.collect_fieldView_eq_nil lift (fun _ => rfl) (fun _ => rfl) fun _ => rfl
  rw [offer_eq (d.ignores_submit_iff now toasts), Node.buttons,
    d.collect_drawOver lift Node.skipsFrames_button,
    d.collect_content lift Node.skipsFrames_button]
  by_cases h : d.isOpen = true <;>
    simp [controls, h, Node.titleBar, Node.collect, Node.button?, hfield, Node.buttons]

/-- The inputs that an open dialog moves the focus through. -/
def ring : List Input := if d.isOpen then d.form.focusRing.map (.field d.name) else []

theorem inputs_drawOver (base : Node μ) :
    (d.drawOver lift base).inputs.map (·.input) = base.inputs.map (·.input) ++ d.ring := by
  rw [Node.inputs_eq, d.collect_drawOver lift Node.skipsFrames_input, ← Node.inputs_eq,
    ← Node.inputs_eq, List.map_append, ring, ← d.inputs_content lift]
  split <;> rfl

theorem tableRows_drawOver (base : Node μ) :
    (d.drawOver lift base).tableRows = base.tableRows := by
  have hnone : (d.content lift).collect Node.tableRow? = [] := d.tableRows_content lift
  rw [Node.tableRows, d.collect_drawOver lift Node.skipsFrames_tableRow, hnone, ite_self,
    List.append_nil]
  rfl

/-! ### Messages -/

/-- The message of a control that stands in the dialog. -/
def Message.IsDrawn (d : Dialog α) : Message α → Prop
  | .input name _ =>
    ∃ f ∈ d.form.fields, f.name = name ∧ f.visible = true ∧ f.isTextInput = true
  | .select name choice =>
    ∃ f ∈ d.form.fields, f.name = name ∧ f.visible = true ∧
      ∃ choices, f.kind = .select choices ∧ choice ∈ choices
  | .submit | .close => True
  | .submitted _ | .focusNext | .focusPrevious | .tick _ => False

theorem sends_fieldView {position : Nat} {f : Field} (hf : f ∈ d.form.fields)
    (hvisible : f.visible = true) {n : Node μ} (hn : n ∈ d.fieldView lift position f) {m : μ}
    (h : n.Sends m) : ∃ x : Message α, x.IsDrawn d ∧ m = lift x := by
  unfold fieldView at hn
  split at hn
  · next choices hkind =>
    rcases List.mem_cons.1 hn with rfl | hn
    · simp at h
    · obtain rfl := List.mem_singleton.1 hn
      obtain ⟨label, hmem⟩ := (Node.sends_pickList _).1 h
      obtain ⟨c, hc, he⟩ := List.mem_map.1 hmem
      exact ⟨.select f.name c, ⟨f, hf, rfl, hvisible, choices, hkind, hc⟩,
        (congrArg Prod.snd he).symm⟩
  · next kind hkind =>
    have htext : f.isTextInput = true := by
      unfold Field.isTextInput
      split
      · rfl
      · rfl
      · next choices hselect => exact absurd hselect (hkind choices)
    rcases List.mem_cons.1 hn with rfl | hn
    · simp at h
    · rcases List.mem_cons.1 hn with rfl | hn
      · rcases (Node.sends_input _).1 h with ⟨s, rfl⟩ | he
        · exact ⟨.input f.name s, ⟨f, hf, rfl, hvisible, htext⟩, rfl⟩
        · exact ⟨.submit, trivial, (Option.some.inj he).symm⟩
      · split at hn
        · cases hn
        · obtain rfl := List.mem_singleton.1 hn
          simp at h

/-- A dialog sends the messages of its controls. -/
theorem sends_content {m : μ} (h : (d.content lift).Sends m) :
    ∃ x : Message α, x.IsDrawn d ∧ m = lift x := by
  obtain ⟨n, hn, h⟩ := (Node.sends_surface _ _).1 h
  simp only [List.mem_append, List.mem_flatMap, Node.titleBar, List.mem_cons, List.not_mem_nil,
    or_false] at hn
  rcases hn with (((rfl | rfl) | ⟨⟨f, position⟩, hfield, hn⟩) | hn) | rfl | rfl
  · simp at h
  · exact ⟨.close, trivial, (Option.some.inj ((Node.sends_button _ _ _).1 h)).symm⟩
  · obtain ⟨hmem, hvisible⟩ := List.mem_filter.1 hfield
    have hf : f ∈ d.form.fields :=
      List.mem_of_getElem? (List.mk_mem_zipIdx_iff_getElem?.1 hmem)
    exact d.sends_fieldView lift hf hvisible hn h
  · split at hn
    · obtain rfl := List.mem_singleton.1 hn
      simp at h
    · cases hn
  · exact ⟨.close, trivial, (Option.some.inj ((Node.sends_button _ _ _).1 h)).symm⟩
  · exact ⟨.submit, trivial, ((Node.sends_busyButton _ _ _ _).1 h).2.symm⟩

/-- An open dialog sends the messages of its controls. What it covers only keeps its inputs. -/
theorem sends_drawOver {base : Node μ} {m : μ} (h : (d.drawOver lift base).Sends m) :
    (d.isOpen = true ∧ ∃ x : Message α, x.IsDrawn d ∧ m = lift x) ∨
      (d.isOpen = false ∧ base.Sends m) ∨ base.Types m := by
  unfold drawOver at h
  cases ho : d.isOpen with
  | false =>
    simp only [ho, Bool.false_eq_true, if_false] at h
    exact .inr (.inl ⟨rfl, h⟩)
  | true =>
    simp only [ho, if_true, Node.sends_dialog] at h
    rcases h with rfl | h | h
    · exact .inl ⟨rfl, .close, trivial, rfl⟩
    · exact .inl ⟨rfl, d.sends_content lift h⟩
    · exact .inr (.inr h)

theorem types_drawOver {base : Node μ} {m : μ} (h : (d.drawOver lift base).Types m) :
    (∃ x, m = lift x) ∨ base.Types m := by
  rcases d.sends_drawOver lift (.inr h) with ⟨-, x, -, hx⟩ | ⟨ho, -⟩ | hbase
  · exact .inl ⟨x, hx⟩
  · unfold drawOver at h
    simp only [ho, Bool.false_eq_true, if_false] at h
    exact .inr h
  · exact .inr hbase

end TokenConsole.Dialog
