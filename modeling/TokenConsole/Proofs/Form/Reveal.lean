import TokenConsole.Proofs.Form.Ring
import TokenConsole.Proofs.Form.Visibility

/-!
# What a new value shows and hides

In a tidy form a field that depends on the one whose value is set is shown exactly if it asks for
that value; all other fields stay as they are.
-/
namespace TokenConsole

/-- The field once a value is entered in the field of a name. -/
def Field.entered (name value : String) (f : Field) : Field :=
  if f.name = name then { f with value, valid := true } else f

/-- A value that is entered shows and hides nothing by itself. -/
theorem Field.entered_kept (name value : String) (f : Field) :
    (f.entered name value).shownWhen = f.shownWhen ∧
      (f.entered name value).visible = f.visible ∧
      (f.entered name value).isTextInput = f.isTextInput := by
  unfold entered
  split <;> exact ⟨rfl, rfl, rfl⟩

namespace Form

section

variable {form : Form} (hd : form.Distinct) (ht : form.Tidy) {name : String} (value : String)

include hd in
theorem getElem?_put (p : Nat) : (form.put name value).fields[p]? =
    form.fields[p]?.map (·.entered name value) := by
  rw [put, modifyFirst_eq_map _ name hd, List.getElem?_map]
  rfl

theorem getElem?_adjust (form : Form) (p : Nat) :
    form.adjust.fields[p]? = form.fields[p]?.map (·.adjust form.payload) := by
  rw [adjust, List.getElem?_map]

variable {g : Field} (hg : form.field? name = some g)
include hd hg

/-- What a condition sees once the value is set. -/
theorem payload_put (k : String) : (form.put name value).payload.get? k =
    if k = name then some value else form.value? k := by
  have hput : (form.put name value).Distinct :=
    distinct_of_declared (declared_put form name value) hd
  rw [payload_get? hput, value?_put]
  by_cases hk : k = name
  · rw [if_pos hk, if_pos hk, hk, value?, hg]
    rfl
  · rw [if_neg hk, if_neg hk]

include ht

/-- A condition holds of the new values if it asks for the value that was set, or is about another
field and held before. -/
theorem condition_put_iff {f : Field} (hf : f ∈ form.fields) {c : String × String}
    (hc : c ∈ f.shownWhen) : (form.put name value).payload.get? c.1 = some c.2 ↔
      c = (name, value) ∨ c.1 ≠ name ∧ f.visible = true := by
  rw [payload_put hd value hg]
  by_cases hn : c.1 = name
  · rw [if_pos hn, Option.some.injEq]
    constructor
    · exact fun hv => .inl (Prod.ext hn hv.symm)
    · intro hor
      rcases hor with he | ⟨hne, -⟩
      · rw [he]
      · exact absurd hn hne
  · rw [if_neg hn, ← (ht f hf c hc).1]
    constructor
    · exact fun hv => .inr ⟨hn, hv⟩
    · intro hor
      rcases hor with he | ⟨-, hv⟩
      · exact absurd (congrArg Prod.fst he) hn
      · exact hv

/-- The inputs on the ring once a value is set: those that ask for it, and those that were shown and
do not depend on the field. -/
theorem mem_focusRing_set_iff {p : Nat} : p ∈ (form.set name value).1.focusRing ↔
    ∃ f, form.fields[p]? = some f ∧ f.isTextInput = true ∧
      (f.shownWhen = some (name, value) ∨
        f.visible = true ∧ ∀ expected, f.shownWhen ≠ some (name, expected)) := by
  have hvisible : ∀ f, form.fields[p]? = some f →
      (((f.entered name value).adjust (form.put name value).payload).visible = true ↔
        f.shownWhen = some (name, value) ∨
          f.visible = true ∧ ∀ expected, f.shownWhen ≠ some (name, expected)) := by
    intro f hp
    obtain ⟨hcondition, hvisible, -⟩ := f.entered_kept name value
    cases hs : f.shownWhen with
    | none =>
      rw [Field.adjust_of_always (hcondition.trans hs), hvisible]
      simp
    | some c =>
      rw [Field.visible_adjust_iff _ (hcondition.trans hs),
        condition_put_iff hd ht value hg (List.mem_of_getElem? hp) hs, Option.some.injEq]
      apply or_congr_right
      constructor
      · intro ⟨hne, hv⟩
        exact ⟨hv, fun expected he => hne (by rw [Option.some.inj he])⟩
      · intro ⟨hv, hne⟩
        exact ⟨fun hn => hne c.2 (by rw [← hn]), hv⟩
  have htext : ∀ f : Field, ((f.entered name value).adjust
      (form.put name value).payload).isTextInput = f.isTextInput := by
    intro f
    rw [Field.isTextInput_adjust, (f.entered_kept name value).2.2]
  have hafter : (form.set name value).1.fields[p]? = (form.fields[p]?.map
      (·.entered name value)).map (·.adjust (form.put name value).payload) := by
    rw [set_of_field? name value hg, getElem?_adjust, getElem?_put hd]
  rw [mem_focusRing, hafter, Option.map_map]
  constructor
  · intro ⟨x, hx, hshown, hinput⟩
    obtain ⟨f, hp, rfl⟩ := Option.map_eq_some_iff.1 hx
    exact ⟨f, hp, (htext f).symm.trans hinput, (hvisible f hp).1 hshown⟩
  · intro ⟨f, hp, hinput, hshown⟩
    exact ⟨_, Option.map_eq_some_iff.2 ⟨f, hp, rfl⟩, (hvisible f hp).2 hshown,
      (htext f).trans hinput⟩

end

/-! ### What a value brings up and hides -/

/-- The field at a position is not shown, and asks for the value. -/
def Awaits (form : Form) (name value : String) (p : Nat) : Prop :=
  ∃ f, form.fields[p]? = some f ∧ f.visible = false ∧ f.shownWhen = some (name, value)

/-- The field at a position asks for another value. -/
def Hides (form : Form) (name value : String) (p : Nat) : Prop :=
  ∃ f, form.fields[p]? = some f ∧
    ∃ expected, f.shownWhen = some (name, expected) ∧ expected ≠ value

section

variable {form : Form} (hd : form.Distinct) (ht : form.Tidy) {name : String} (value : String)
  {g : Field} (hg : form.field? name = some g)
include hd ht hg

/-- A hidden field is brought up exactly if it asks for the value that is set. -/
theorem isShown_put_iff {f : Field} (hf : f ∈ form.fields) (hhidden : f.visible = false) :
    (f.entered name value).isShown (form.put name value).payload = true ↔
      f.shownWhen = some (name, value) := by
  obtain ⟨hcondition, hvisible, -⟩ := f.entered_kept name value
  unfold Field.isShown
  rw [hcondition, hvisible]
  cases hs : f.shownWhen with
  | none => simp [hhidden]
  | some c =>
    have hcondition := condition_put_iff hd ht value hg hf hs
    rw [hhidden] at hcondition
    simpa using hcondition

theorem mem_revealed_iff {p : Nat} :
    p ∈ ((form.put name value).fields.zipIdx.filter fun (f, _) =>
      !f.visible && f.isShown (form.put name value).payload).map (·.2) ↔
      form.Awaits name value p := by
  simp only [List.mem_map, List.mem_filter, Bool.and_eq_true, Bool.not_eq_true']
  constructor
  · intro ⟨⟨f', q⟩, ⟨hmem, hhidden, hshown⟩, he⟩
    cases he
    have hp := List.mk_mem_zipIdx_iff_getElem?.1 hmem
    rw [getElem?_put hd, Option.map_eq_some_iff] at hp
    obtain ⟨f, hp, rfl⟩ := hp
    have hf : f.visible = false := (f.entered_kept name value).2.1.symm.trans hhidden
    exact ⟨f, hp, hf, (isShown_put_iff hd ht value hg (List.mem_of_getElem? hp) hf).1 hshown⟩
  · intro ⟨f, hp, hhidden, hs⟩
    have hput : (form.put name value).fields[p]? = some (f.entered name value) := by
      rw [getElem?_put hd, hp, Option.map_some]
    refine ⟨⟨_, p⟩, ⟨List.mk_mem_zipIdx_iff_getElem?.2 hput, ?_, ?_⟩, rfl⟩
    · exact (f.entered_kept name value).2.1.trans hhidden
    · exact (isShown_put_iff hd ht value hg (List.mem_of_getElem? hp) hhidden).2 hs

/-- A value brings up a field if one waits for it, and tells which. -/
theorem set_revealed_cases :
    (∃ p, (form.set name value).2 = some p ∧ form.Awaits name value p) ∨
      (form.set name value).2 = none ∧ ∀ p, ¬form.Awaits name value p := by
  have hset : (form.set name value).2 = (((form.put name value).fields.zipIdx.filter
      fun (f, _) => !f.visible && f.isShown (form.put name value).payload).map (·.2)).getLast? := by
    rw [set, hg]
    exact List.getLast?_map.symm
  cases hlast : (form.set name value).2 with
  | some p =>
    rw [hset] at hlast
    exact .inl ⟨p, rfl, (mem_revealed_iff hd ht value hg).1 (List.mem_of_getLast? hlast)⟩
  | none =>
    rw [hset, List.getLast?_eq_none_iff] at hlast
    refine .inr ⟨rfl, fun p hp => ?_⟩
    have hmem := (mem_revealed_iff hd ht value hg).2 hp
    rw [hlast] at hmem
    cases hmem

/-- A value that brings up nothing leaves the inputs on the ring, but for those that it hides. -/
theorem mem_focusRing_set_of_not_awaits (hnone : ∀ p, ¬form.Awaits name value p) {p : Nat} :
    p ∈ (form.set name value).1.focusRing ↔ p ∈ form.focusRing ∧ ¬form.Hides name value p := by
  rw [mem_focusRing_set_iff hd ht value hg, mem_focusRing]
  constructor
  · intro ⟨f, hp, htext, hor⟩
    refine ⟨⟨f, hp, ?_, htext⟩, fun ⟨f', hp', expected, hs, hne⟩ => ?_⟩
    · rcases hor with hs | ⟨hvisible, -⟩
      · by_contra hhidden
        exact hnone p ⟨f, hp, Bool.eq_false_iff.2 hhidden, hs⟩
      · exact hvisible
    · cases hp.symm.trans hp'
      rcases hor with hs' | ⟨-, hfree⟩
      · cases hs.symm.trans hs'
        exact hne rfl
      · exact hfree expected hs
  · intro ⟨⟨f, hp, hvisible, htext⟩, hkept⟩
    refine ⟨f, hp, htext, ?_⟩
    by_cases hs : ∃ expected, f.shownWhen = some (name, expected)
    · obtain ⟨expected, hs⟩ := hs
      have he : expected = value := by
        by_contra hne
        exact hkept ⟨f, hp, expected, hs, hne⟩
      exact .inl (he ▸ hs)
    · exact .inr ⟨hvisible, fun expected hs' => hs ⟨expected, hs'⟩⟩

end

/-! ### Regular forms -/

/-- The fields that are shown at times are text inputs, and depend on fields that are always shown.
The required field is a text input that is always shown. -/
structure Regular (form : Form) : Prop where
  distinct : form.Distinct
  flat : form.Flat
  textual : ∀ f ∈ form.fields, f.shownWhen.isSome = true → f.isTextInput = true
  required : ∀ f ∈ form.fields, f.name = form.required →
    f.isTextInput = true ∧ f.visible = true ∧ f.shownWhen = none

instance (form : Form) : Decidable form.Regular :=
  decidable_of_iff (form.Distinct ∧ form.Flat ∧
      (∀ f ∈ form.fields, f.shownWhen.isSome = true → f.isTextInput = true) ∧
      ∀ f ∈ form.fields, f.name = form.required →
        f.isTextInput = true ∧ f.visible = true ∧ f.shownWhen = none)
    ⟨fun ⟨hd, hf, ht, hr⟩ => ⟨hd, hf, ht, hr⟩,
      fun h => ⟨h.distinct, h.flat, h.textual, h.required⟩⟩

section

variable {form form' : Form}

/-- At each position is the field that was there before, as far as it lasts. -/
theorem getElem?_of_lasting (h : form.lasting = form'.lasting) {p : Nat} {f : Field}
    (hp : form.fields[p]? = some f) :
    ∃ f', form'.fields[p]? = some f' ∧ f'.lasting = f.lasting := by
  have hfields : form.lasting.fields[p]? = form'.lasting.fields[p]? := by rw [h]
  simp only [lasting, List.getElem?_map, hp, Option.map_some] at hfields
  exact Option.map_eq_some_iff.1 hfields.symm

/-- A form is regular from the start or never. -/
theorem regular_of_lasting (h : form.lasting = form'.lasting) (hr : form'.Regular) :
    form.Regular := by
  have hdeclared : form.declared = form'.declared := declared_of_lasting h
  refine ⟨distinct_of_declared hdeclared hr.distinct, flat_of_declared hdeclared hr.flat,
    fun f hf hs => ?_, fun f hf hname => ?_⟩
  · obtain ⟨p, hp⟩ := List.getElem?_of_mem hf
    obtain ⟨f', hp', he⟩ := getElem?_of_lasting h hp
    have hcondition : f'.shownWhen = f.shownWhen := congrArg (·.shownWhen) he
    have htext : f'.isTextInput = f.isTextInput := Field.isTextInput_of_lasting he
    rw [← htext]
    exact hr.textual f' (List.mem_of_getElem? hp') (hcondition ▸ hs)
  · obtain ⟨p, hp⟩ := List.getElem?_of_mem hf
    obtain ⟨f', hp', he⟩ := getElem?_of_lasting h hp
    have hname' : f'.name = form'.required := by
      calc
        f'.name = f.name := congrArg (·.name) he
        _ = form.required := hname
        _ = form'.required := congrArg (·.required) h
    obtain ⟨htext', hvisible', hs'⟩ := hr.required f' (List.mem_of_getElem? hp') hname'
    have hs : f.shownWhen = none := (congrArg (·.shownWhen) he).symm.trans hs'
    have htext : f'.isTextInput = f.isTextInput := Field.isTextInput_of_lasting he
    have hvisible : f'.lasting.visible = f.lasting.visible := congrArg (·.visible) he
    simp only [Field.lasting, hvisible', hs', hs, Option.isSome_none, Bool.or_false] at hvisible
    exact ⟨htext.symm.trans htext', hvisible.symm, hs⟩

/-- The text inputs that are shown, or are shown at times. -/
theorem mem_focusRing_lasting {p : Nat} : p ∈ form.lasting.focusRing ↔
    ∃ f, form.fields[p]? = some f ∧ (f.visible = true ∨ f.shownWhen.isSome = true) ∧
      f.isTextInput = true := by
  rw [mem_focusRing, lasting, List.getElem?_map]
  constructor
  · intro h
    obtain ⟨x, hx, hshown, htext⟩ := h
    obtain ⟨f, hp, rfl⟩ := Option.map_eq_some_iff.1 hx
    exact ⟨f, hp, (Bool.or_eq_true _ _).mp hshown, htext⟩
  · intro h
    obtain ⟨f, hp, hshown, htext⟩ := h
    exact ⟨f.lasting, by rw [hp]; rfl, (Bool.or_eq_true _ _).mpr hshown, htext⟩

theorem focusRing_subset_lasting (form : Form) : form.focusRing ⊆ form.lasting.focusRing := by
  intro p hp
  obtain ⟨f, hf, hvisible, htext⟩ := form.mem_focusRing.1 hp
  exact mem_focusRing_lasting.2 ⟨f, hf, .inl hvisible, htext⟩

end

end Form

end TokenConsole
