import TokenConsole.Screen.View

/-!
# What a screen can send

A dialog covers what it lies over: a pointer reaches only what is in the dialog, or goes beside it.
The keyboard reaches every input. `Sends` covers the messages that come of both.
-/
namespace TokenConsole.Screen

variable {μ : Type}

namespace Node

mutual

/-- The messages of the presses and the choices that a pointer can make. -/
def pointed : Node μ → List μ
  | .pickList p => p.entries.map (·.2)
  | .button _ _ press => press.toList
  | .surface _ content => pointedAll content
  | .scrolled content => pointedAll content
  | .group content => pointedAll content
  | .dialog _ content onBlur => onBlur :: pointed content
  | _ => []

def pointedAll : List (Node μ) → List μ
  | [] => []
  | n :: rest => pointed n ++ pointedAll rest

end

/-- The messages of what is entered in the inputs of a screen. -/
def Types (n : Node μ) (m : μ) : Prop :=
  ∃ i ∈ n.inputs, (∃ s, m = i.onInput s) ∨ i.onEnter = some m

/-- The messages that a screen can send. -/
def Sends (n : Node μ) (m : μ) : Prop := m ∈ n.pointed ∨ n.Types m

@[simp] theorem pointedAll_eq (ns : List (Node μ)) : pointedAll ns = ns.flatMap pointed := by
  induction ns with
  | nil => rfl
  | cons n rest ih => rw [pointedAll, ih, List.flatMap_cons]

/-! What a screen sends is what its parts send. -/

section

variable {m : μ}

@[simp] theorem sends_text (label : Label) : (text label : Node μ).Sends m ↔ False := by
  simp [Sends, Types, pointed, inputs]

@[simp] theorem sends_input (i : TextInput μ) :
    (input i).Sends m ↔ (∃ s, m = i.onInput s) ∨ i.onEnter = some m := by
  simp [Sends, Types, pointed, inputs]

@[simp] theorem sends_pickList (p : PickList μ) :
    (pickList p).Sends m ↔ ∃ label, (label, m) ∈ p.entries := by
  simp [Sends, Types, pointed, inputs]

@[simp] theorem sends_button (kind : ButtonKind) (label : Label) (press : Option μ) :
    (button kind label press).Sends m ↔ press = some m := by
  simp [Sends, Types, pointed, inputs]

theorem mem_inputsOf {i : TextInput μ} {ns : List (Node μ)} :
    i ∈ inputsOf ns ↔ ∃ n ∈ ns, i ∈ n.inputs := by
  induction ns with
  | nil => simp [inputsOf]
  | cons n rest ih => simp [inputsOf, ih]

/-- A surface sends what stands on it, and so does a group. -/
@[simp] theorem sends_surface (kind : SurfaceKind) (content : List (Node μ)) :
    (surface kind content).Sends m ↔ ∃ n ∈ content, n.Sends m := by
  simp only [Sends, Types, pointed, inputs, pointedAll_eq, List.mem_flatMap, mem_inputsOf]
  constructor
  · rintro (⟨n, hn, hm⟩ | ⟨i, ⟨n, hn, hi⟩, hm⟩)
    · exact ⟨n, hn, .inl hm⟩
    · exact ⟨n, hn, .inr ⟨i, hi, hm⟩⟩
  · rintro ⟨n, hn, hm | ⟨i, hi, hm⟩⟩
    · exact .inl ⟨n, hn, hm⟩
    · exact .inr ⟨i, ⟨n, hn, hi⟩, hm⟩

@[simp] theorem sends_scrolled (content : List (Node μ)) :
    (scrolled content).Sends m ↔ ∃ n ∈ content, n.Sends m :=
  sends_surface .plain content

@[simp] theorem sends_group (content : List (Node μ)) :
    (group content).Sends m ↔ ∃ n ∈ content, n.Sends m :=
  sends_surface .plain content

/-- What a dialog covers only keeps its inputs. -/
@[simp] theorem sends_dialog (base content : Node μ) (onBlur : μ) :
    (dialog base content onBlur).Sends m ↔ m = onBlur ∨ content.Sends m ∨ base.Types m := by
  simp only [Sends, Types, pointed, inputs, List.mem_cons, List.mem_append]
  constructor
  · rintro ((rfl | hm) | ⟨i, hi | hi, hm⟩)
    · exact .inl rfl
    · exact .inr (.inl (.inl hm))
    · exact .inr (.inr ⟨i, hi, hm⟩)
    · exact .inr (.inl (.inr ⟨i, hi, hm⟩))
  · rintro (rfl | (hm | ⟨i, hi, hm⟩) | ⟨i, hi, hm⟩)
    · exact .inl (.inl rfl)
    · exact .inl (.inr hm)
    · exact .inr ⟨i, .inr hi, hm⟩
    · exact .inr ⟨i, .inl hi, hm⟩

@[simp] theorem sends_busyButton (label busyLabel : String) (busy : Bool) (press : μ) :
    (busyButton label busyLabel busy press).Sends m ↔ busy = false ∧ press = m := by
  cases busy <;> simp [busyButton]

@[simp] theorem sends_notice (tone : Tone) (text : String) :
    (notice tone text : Node μ).Sends m ↔ False := by
  simp [notice]

end

end Node

/-! ### Pointers -/

/-- A text of this role sends messages of `ms` only. -/
def Role.Within (ms : List μ) : Role μ → Prop
  | .button press => ∀ m, press = some m → m ∈ ms
  | .pickList entries => ∀ e ∈ entries, e.2 ∈ ms
  | _ => True

/-- So do all texts of a layer that are not covered. -/
def LayerWithin (ms : List μ) (layer : List (Item μ)) : Prop :=
  ∀ t, Item.text t ∈ layer → t.covered = false → t.role.Within ms

structure Drawing.Within (d : Drawing μ) (ms : List μ) : Prop where
  items : LayerWithin ms d.items
  above : ∀ layer ∈ d.above, LayerWithin ms layer

theorem Role.Within.mono {ms more : List μ} {role : Role μ} (h : role.Within ms)
    (hsub : ms ⊆ more) : role.Within more := by
  cases role with
  | button press => exact fun m hm => hsub (h m hm)
  | pickList entries => exact fun e he => hsub (h e he)
  | _ => trivial

theorem Drawing.Within.mono {d : Drawing μ} {ms more : List μ} (h : d.Within ms)
    (hsub : ms ⊆ more) : d.Within more :=
  ⟨fun t ht hc => (h.items t ht hc).mono hsub,
    fun layer hl t ht hc => (h.above layer hl t ht hc).mono hsub⟩

theorem LayerWithin.append {ms : List μ} {xs ys : List (Item μ)} (hx : LayerWithin ms xs)
    (hy : LayerWithin ms ys) : LayerWithin ms (xs ++ ys) :=
  fun t ht => (List.mem_append.1 ht).elim (hx t) (hy t)

/-- What is covered sends nothing. -/
theorem layerWithin_cover (ms : List μ) (layer : List (Item μ)) :
    LayerWithin ms (layer.map .cover) := by
  intro t ht
  obtain ⟨i, -, hi⟩ := List.mem_map.1 ht
  cases i with
  | text u =>
    cases hi
    intro hc
    cases hc
  | box b => cases hi

theorem layerWithin_boxes (ms : List μ) (s : Surface) : LayerWithin ms s.boxes := by
  intro t ht
  unfold Surface.boxes at ht
  split at ht
  · cases List.mem_singleton.1 ht
  · split at ht
    · cases ht
    · cases List.mem_singleton.1 ht

theorem layerWithin_drawLabel {color : Color} {role : Role μ} {l : Label} {ms : List μ}
    (h : role.Within ms) : LayerWithin ms (drawLabel color role l) := by
  intro t ht
  simp only [drawLabel] at ht
  split at ht
  · cases ht
  · cases List.mem_singleton.1 ht
    exact fun _ => h

/-- A box before a text does not count. -/
theorem LayerWithin.box {ms : List μ} {layer : List (Item μ)} (h : LayerWithin ms layer) (b : Box) :
    LayerWithin ms (.box b :: layer) := by
  intro t ht
  rcases List.mem_cons.1 ht with he | ht
  · cases he
  · exact h t ht

namespace Node

mutual

/-- What is drawn of a screen sends only what a pointer can make the screen send. -/
theorem draw_within (color : Color) (n : Node μ) : (n.draw color).Within n.pointed := by
  cases n with
  | text label =>
    have hplain : (Role.plain : Role μ).Within (text label).pointed := trivial
    exact ⟨layerWithin_drawLabel hplain, fun _ h => by cases h⟩
  | input i =>
    have hinput : (Role.input : Role μ).Within (input i).pointed := trivial
    exact ⟨.box (layerWithin_drawLabel hinput) _, fun _ h => by cases h⟩
  | pickList p =>
    have hentries : (Role.pickList p.entries).Within (p.entries.map (·.2)) :=
      fun e he => List.mem_map_of_mem he
    exact ⟨.box (layerWithin_drawLabel hentries) _, fun _ h => by cases h⟩
  | button kind label press =>
    have hpress : (Role.button press).Within press.toList := fun m hm => Option.mem_toList.2 hm
    exact ⟨.box (layerWithin_drawLabel hpress) _, fun _ h => by cases h⟩
  | surface kind content =>
    have hinner := drawAll_within (kind.style.text.getD color) content
    exact ⟨(layerWithin_boxes _ _).append hinner.items, hinner.above⟩
  | scrolled content =>
    have hinner := drawAll_within color content
    exact ⟨(layerWithin_boxes _ _).append hinner.items, hinner.above⟩
  | group content => exact drawAll_within color content
  | dialog base content onBlur =>
    have hlifted := (draw_within color content).mono (List.subset_cons_self onBlur _)
    refine ⟨layerWithin_cover _ _, fun layer hl => ?_⟩
    rcases List.mem_append.1 hl with hl | hl
    · obtain ⟨under, -, rfl⟩ := List.mem_map.1 hl
      exact layerWithin_cover _ _
    · rcases List.mem_cons.1 hl with rfl | hl
      · exact (layerWithin_boxes _ _).append hlifted.items
      · exact hlifted.above layer hl

theorem drawAll_within (color : Color) (ns : List (Node μ)) :
    (drawAll color ns).Within (pointedAll ns) := by
  cases ns with
  | nil => exact ⟨fun _ ht => absurd ht List.not_mem_nil, fun _ h => by cases h⟩
  | cons n rest =>
    have hn := (draw_within color n).mono (List.subset_append_left n.pointed (pointedAll rest))
    have hrest := (drawAll_within color rest).mono
      (List.subset_append_right n.pointed (pointedAll rest))
    exact ⟨hn.items.append hrest.items,
      fun layer hl => (List.mem_append.1 hl).elim (hn.above layer) (hrest.above layer)⟩

end

/-- A press beside a dialog is one that a pointer can make. -/
theorem outerBlur?_mem {n : Node μ} {m : μ} (h : n.outerBlur? = some m) : m ∈ n.pointed := by
  cases n with
  | dialog base content onBlur =>
    cases h
    exact List.mem_cons_self
  | _ => cases h

mutual

theorem blur?_mem {n : Node μ} {m : μ} (h : n.blur? = some m) : m ∈ n.pointed := by
  cases n with
  | surface kind content => exact blurOf?_mem h
  | scrolled content => exact blurOf?_mem h
  | group content => exact blurOf?_mem h
  | dialog base content onBlur =>
    cases h
    exact List.mem_cons_self
  | _ => cases h

theorem blurOf?_mem {ns : List (Node μ)} {m : μ} (h : blurOf? ns = some m) :
    m ∈ pointedAll ns := by
  cases ns with
  | nil => cases h
  | cons n rest =>
    rcases Option.or_eq_some_iff.1 h with hn | ⟨-, hrest⟩
    · exact List.mem_append_left _ (blur?_mem hn)
    · exact List.mem_append_right _ (blurOf?_mem hrest)

end

end Node

namespace TextInput

/-- Typing sends what the input makes of its texts. -/
theorem mem_typeFrom {i : TextInput μ} {m : μ} {cs : List Char} {value : String}
    (h : m ∈ i.typeFrom value cs) : ∃ s, m = i.onInput s := by
  induction cs generalizing value with
  | nil => cases h
  | cons c cs ih =>
    unfold typeFrom at h
    split at h
    · exact ih h
    · rcases List.mem_cons.1 h with rfl | h
      · exact ⟨_, rfl⟩
      · exact ih h

theorem mem_eraseFrom {i : TextInput μ} {m : μ} {count : Nat} {value : String}
    (h : m ∈ i.eraseFrom value count) : ∃ s, m = i.onInput s := by
  induction count generalizing value with
  | zero => cases h
  | succ count ih =>
    rcases List.mem_cons.1 h with rfl | h
    · exact ⟨_, rfl⟩
    · exact ih h

theorem mem_enter {i : TextInput μ} {m : μ} {count : Nat} (h : m ∈ i.enter count) :
    i.onEnter = some m := by
  obtain ⟨ms, hms, hm⟩ := List.mem_flatten.1 h
  rw [List.eq_of_mem_replicate hms] at hm
  exact Option.mem_toList.1 hm

end TextInput

namespace Picture

variable (p : Picture μ)

theorem layers_within (n : Node μ) : ∀ layer ∈ n.layers, LayerWithin n.pointed layer := by
  have h := n.draw_within textColor
  exact fun layer hl => (List.mem_cons.1 hl).elim (fun he => he ▸ h.items) (h.above layer)

theorem toastLayers_within : ∀ layer ∈ p.toastLayers, LayerWithin p.toasts.pointed layer := by
  intro layer hl t ht hc
  obtain ⟨items, hitems, rfl⟩ := List.mem_map.1 hl
  obtain ⟨i, hi, he⟩ := List.mem_map.1 ht
  split at he
  · exact layers_within p.toasts items hitems t (he ▸ hi) hc
  · exact layerWithin_cover p.toasts.pointed items t (List.mem_map.2 ⟨i, hi, he⟩) hc

/-- A text that a pointer reaches belongs to the page or to a toast. -/
theorem reachable_within {t : DrawnText μ} (ht : t ∈ p.reachable) :
    t.role.Within p.page.pointed ∨ t.role.Within p.toasts.pointed := by
  obtain ⟨hdrawn, hc⟩ := List.mem_filter.1 ht
  have hcovered : t.covered = false := by simpa using hc
  obtain ⟨i, hi, hit⟩ := List.mem_filterMap.1 hdrawn
  obtain ⟨layer, hlayer, hmem⟩ := List.mem_flatten.1 hi
  cases i with
  | box b => cases hit
  | text u =>
    cases hit
    rcases List.mem_append.1 (List.mem_filter.1 hlayer).1 with hl | hl
    · exact .inl (layers_within p.page layer hl t hmem hcovered)
    · exact .inr (p.toastLayers_within layer hl t hmem hcovered)

/-- A click on a text is a press of its button, or a press beside the dialog that covers all. -/
theorem sends_of_press {t : DrawnText μ} (ht : t ∈ p.reachable) {m : μ} (h : p.press? t = some m) :
    p.page.Sends m ∨ p.toasts.Sends m := by
  unfold press? at h
  split at h
  · cases h
  · split at h
    · exact .inl (.inl (Node.outerBlur?_mem h))
    · split at h
      · next press hrole =>
        have hw := p.reachable_within ht
        rw [hrole] at hw
        exact hw.imp (fun hw => .inl (hw m h)) fun hw => .inl (hw m h)
      · cases h

theorem sends_of_choice {shown entry : String} {m : μ} (h : p.choose? shown entry = some m) :
    p.page.Sends m ∨ p.toasts.Sends m := by
  obtain ⟨entries, hentries, hm⟩ := Option.bind_eq_some_iff.1 h
  obtain ⟨t, ht, hrole⟩ := List.exists_of_findSome?_eq_some hentries
  split at hrole
  · next hlist =>
    cases hrole
    obtain ⟨before, after, hcut, -⟩ := List.lookup_eq_some_iff.1 hm
    have hmem : (entry, m) ∈ entries := by simp [hcut]
    have hw := p.reachable_within (List.mem_filter.1 ht).1
    rw [hlist] at hw
    exact hw.imp (fun hw => .inl (hw _ hmem)) fun hw => .inl (hw _ hmem)
  · cases hrole

theorem sends_of_blur {m : μ} (h : p.page.blur? = some m) : p.page.Sends m :=
  .inl (Node.blur?_mem h)

/-- Whatever the user types in an input of a page or erases from it, the page can send it. -/
theorem sends_of_input {i : Input} {ti : TextInput μ} (hi : p.input? i = some ti) {m : μ}
    (h : (∃ s, m ∈ ti.type s) ∨ (∃ n, m ∈ ti.erase n) ∨ ∃ n, m ∈ ti.enter n) : p.page.Sends m := by
  have hmem : ti ∈ p.page.inputs := List.mem_of_find?_eq_some hi
  rcases h with ⟨s, h⟩ | ⟨n, h⟩ | ⟨n, h⟩
  · exact .inr ⟨ti, hmem, .inl (TextInput.mem_typeFrom h)⟩
  · exact .inr ⟨ti, hmem, .inl (TextInput.mem_eraseFrom h)⟩
  · exact .inr ⟨ti, hmem, .inr (TextInput.mem_enter h)⟩

end Picture

end TokenConsole.Screen
