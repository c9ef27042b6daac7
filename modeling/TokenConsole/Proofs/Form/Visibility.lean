import Mathlib.Data.List.Induction
import Mathlib.Data.List.Nodup
import TokenConsole.Proofs.Form.Values
import TokenConsole.Tokens

/-!
# Fields that depend on others

A form is tidy when each field that depends on another one is on the screen exactly while that one
holds the value asked for, and holds nothing otherwise. Whether it belongs on the screen is decided
before hidden fields are cleared. So a form can be left untidy by a field that is cleared while
another one depends on it, and in no other way but by marking a hidden field as invalid.
-/
namespace TokenConsole

/-! ### One field -/

namespace Field

variable (values : Payload) (f : Field)

theorem shownWhen_adjust : (f.adjust values).shownWhen = f.shownWhen := by
  unfold adjust
  split
  · rfl
  · split <;> rfl

variable {f} {c : String × String}

theorem visible_adjust_iff (h : c ∈ f.shownWhen) :
    (f.adjust values).visible = true ↔ values.get? c.1 = some c.2 := by
  by_cases hv : values.get? c.1 = some c.2
  · rw [adjust_of_shown h hv]
    exact iff_of_true rfl hv
  · rw [adjust_of_hidden h hv]
    exact iff_of_false Bool.false_ne_true hv

theorem emptied_adjust (h : c ∈ f.shownWhen) (hhidden : (f.adjust values).visible = false) :
    (f.adjust values).value = "" ∧ (f.adjust values).valid = true := by
  have hv : values.get? c.1 ≠ some c.2 := by
    rw [ne_eq, ← visible_adjust_iff values h, hhidden]
    exact Bool.false_ne_true
  rw [adjust_of_hidden h hv]
  exact ⟨rfl, rfl⟩

/-- A field is left alone if it is on the screen as it should be, and empty if it is not. -/
theorem adjust_eq_self_iff : f.adjust values = f ↔ ∀ c ∈ f.shownWhen,
    (f.visible = true ↔ values.get? c.1 = some c.2) ∧
      (f.visible = false → f.value = "" ∧ f.valid = true) := by
  constructor
  · intro h c hc
    have hvisible := visible_adjust_iff values hc
    have hemptied := emptied_adjust values hc
    rw [h] at hvisible hemptied
    exact ⟨hvisible, hemptied⟩
  · intro h
    cases hs : f.shownWhen with
    | none => exact adjust_of_always hs values
    | some c =>
      obtain ⟨hvisible, hemptied⟩ := h c hs
      by_cases hv : values.get? c.1 = some c.2
      · rw [adjust_of_shown hs hv, ← hvisible.2 hv]
      · have hhidden : f.visible = false := Bool.eq_false_iff.2 (mt hvisible.1 hv)
        obtain ⟨hvalue, hvalid⟩ := hemptied hhidden
        rw [adjust_of_hidden hs hv, ← hhidden, ← hvalue, ← hvalid]

end Field

namespace Form

/-! ### Tidy forms -/

/-- Each field that depends on another one is on the screen exactly while that one holds what is
asked for, and is empty and valid while it is hidden. -/
def Tidy (form : Form) : Prop :=
  ∀ f ∈ form.fields, ∀ c ∈ f.shownWhen,
    (f.visible = true ↔ form.value? c.1 = some c.2) ∧
      (f.visible = false → f.value = "" ∧ f.valid = true)

instance (form : Form) : Decidable form.Tidy :=
  inferInstanceAs (Decidable (∀ f ∈ form.fields, ∀ c ∈ f.shownWhen, _))

/-- Adjusting the form clears the field of a name, as it depends on one that does not hold what is
asked for. -/
def Clears (form : Form) (name : String) : Prop :=
  ∃ f, form.field? name = some f ∧ ∃ c ∈ f.shownWhen, form.value? c.1 ≠ some c.2

/-- No condition hangs on a field that adjusting clears, unless it holds of an empty field just as
it did before. -/
def Firm (form : Form) : Prop :=
  ∀ f ∈ form.fields, ∀ c ∈ f.shownWhen, form.Clears c.1 →
    (form.value? c.1 = some c.2 ↔ c.2 = "")

section

variable {form : Form}

theorem adjust_eq_self_iff (hd : form.Distinct) : form.adjust = form ↔ form.Tidy := by
  have hfields : form.adjust = form ↔
      form.fields.map (·.adjust form.payload) = form.fields.map id := by
    rw [List.map_id]
    exact ⟨fun h => congrArg Form.fields h, fun h => congrArg (Form.mk · form.required) h⟩
  rw [hfields, List.map_inj_left]
  refine forall₂_congr fun f _ => ?_
  rw [id, Field.adjust_eq_self_iff]
  simp only [payload_get? hd]

theorem value?_adjust_of_clears (hd : form.Distinct) {name : String} (h : form.Clears name) :
    form.adjust.value? name = some "" := by
  obtain ⟨f, hf, c, hc, hne⟩ := h
  rw [value?, field?_adjust, hf, Option.map_some, Option.map_some,
    Field.adjust_of_hidden hc (by rwa [payload_get? hd])]

theorem value?_adjust_of_not_clears (hd : form.Distinct) {name : String} (h : ¬form.Clears name) :
    form.adjust.value? name = form.value? name := by
  cases hf : form.field? name with
  | none =>
    rw [value?, field?_adjust, hf, value?, hf]
    rfl
  | some f =>
    cases hs : f.shownWhen with
    | none => exact value?_adjust_of_always name hf hs
    | some c =>
      have hv : form.value? c.1 = some c.2 := by
        by_contra hne
        exact h ⟨f, hf, c, hs, hne⟩
      rw [value?, field?_adjust, hf, Option.map_some,
        Field.adjust_of_shown hs (by rwa [payload_get? hd]), value?, hf]
      rfl

/-- What a condition says of an adjusted form is what it said before, unless the field that it is
about was cleared. -/
theorem tidy_adjust_iff (hd : form.Distinct) : form.adjust.Tidy ↔ form.Firm := by
  have hfield : ∀ f ∈ form.fields, ∀ c ∈ f.shownWhen,
      ((f.adjust form.payload).visible = true ↔ form.value? c.1 = some c.2) := by
    intro f _ c hc
    rw [Field.visible_adjust_iff form.payload hc, payload_get? hd]
  constructor
  · intro h f hf c hc hclears
    have hc' : c ∈ (f.adjust form.payload).shownWhen := by rwa [Field.shownWhen_adjust]
    have hvisible := (h _ (List.mem_map_of_mem hf) c hc').1
    rw [hfield f hf c hc, value?_adjust_of_clears hd hclears] at hvisible
    rw [hvisible, Option.some.injEq]
    exact eq_comm
  · intro h g hg c hc
    obtain ⟨f, hf, rfl⟩ := List.mem_map.1 hg
    rw [Field.shownWhen_adjust] at hc
    refine ⟨?_, Field.emptied_adjust form.payload hc⟩
    rw [hfield f hf c hc]
    by_cases hclears : form.Clears c.1
    · rw [h f hf c hc hclears, value?_adjust_of_clears hd hclears, Option.some.injEq]
      exact eq_comm
    · rw [value?_adjust_of_not_clears hd hclears]

/-- No condition is about a field that has a condition itself. -/
def Flat (form : Form) : Prop :=
  ∀ f ∈ form.fields, ∀ c ∈ f.shownWhen, ∀ g ∈ form.fields, g.name = c.1 → g.shownWhen = none

instance (form : Form) : Decidable form.Flat :=
  inferInstanceAs (Decidable (∀ f ∈ form.fields, ∀ c ∈ f.shownWhen, _))

/-- In a flat form what is cleared is nothing that another field depends on. -/
theorem firm_of_flat (h : form.Flat) : form.Firm := by
  rintro f hf c hc ⟨g, hg, c', hc', -⟩
  obtain ⟨hmem, hname⟩ := field?_eq_some hg
  rw [h f hf c hc g hmem hname] at hc'
  cases hc'

theorem mem_of_declared {form' : Form} (h : form.declared = form'.declared) {f : Field}
    (hf : f ∈ form.fields) :
    ∃ f' ∈ form'.fields, f'.name = f.name ∧ f'.shownWhen = f.shownWhen := by
  have hmem : f.declared ∈ form'.declared.fields := h ▸ List.mem_map_of_mem hf
  obtain ⟨f', hf', hd⟩ := List.mem_map.1 hmem
  have hname : f'.declared.name = f.declared.name := by rw [hd]
  have hshown : f'.declared.shownWhen = f.declared.shownWhen := by rw [hd]
  exact ⟨f', hf', hname, hshown⟩

theorem flat_of_declared {form' : Form} (h : form.declared = form'.declared) (hflat : form'.Flat) :
    form.Flat := by
  intro f hf c hc g hg hname
  obtain ⟨f', hf', -, hfs⟩ := mem_of_declared h hf
  obtain ⟨g', hg', hgn, hgs⟩ := mem_of_declared h hg
  rw [← hgs]
  exact hflat f' hf' c (hfs ▸ hc) g' hg' (hgn.trans hname)

/-- To go through the fields is to go through the names. -/
theorem forall_mem_iff (hd : form.Distinct) {p : Field → Prop} :
    (∀ f ∈ form.fields, p f) ↔ ∀ name f, form.field? name = some f → p f :=
  ⟨fun h _ f hf => h f (field?_eq_some hf).1, fun h f hf => h f.name f (field?_of_mem hd hf)⟩

end

/-! ### Edits -/

/-- What is done to a form. -/
inductive Edit where
  | set (name value : String)
  | reset
  | invalidate (name : String)
  deriving DecidableEq, Repr

namespace Edit

def apply (form : Form) : Edit → Form
  | .set name value => (form.set name value).1
  | .reset => form.reset
  | .invalidate name => form.invalidate name

/-- The edit does not mark a hidden field as invalid. -/
def Spares (form : Form) : Edit → Prop
  | .invalidate name => ∀ f ∈ form.field? name, f.shownWhen.isSome → f.visible = true
  | .set _ _ | .reset => True

instance (form : Form) : (edit : Edit) → Decidable (edit.Spares form)
  | .invalidate name => inferInstanceAs (Decidable (∀ f ∈ form.field? name, _))
  | .set _ _ => inferInstanceAs (Decidable True)
  | .reset => inferInstanceAs (Decidable True)

/-- The edit leaves a tidy form. -/
def Tidies (form : Form) : Edit → Prop
  | .set name value => if (form.field? name).isSome then (form.put name value).Firm else form.Tidy
  | .reset => form.renewed.Firm
  | .invalidate name => form.Tidy ∧ (Edit.invalidate name).Spares form

end Edit

section

variable {form : Form}

theorem declared_apply (form : Form) (edit : Edit) :
    (edit.apply form).declared = form.declared := by
  cases edit with
  | set name value => exact declared_set form name value
  | reset => exact declared_reset form
  | invalidate name => exact declared_invalidate form name

theorem distinct_apply (hd : form.Distinct) (edit : Edit) : (edit.apply form).Distinct :=
  distinct_of_declared (declared_apply form edit) hd

/-- To mark a field as invalid hides nothing and clears nothing. -/
theorem tidy_invalidate_iff (hd : form.Distinct) (name : String) :
    (form.invalidate name).Tidy ↔ form.Tidy ∧ (Edit.invalidate name).Spares form := by
  have hd' : (form.invalidate name).Distinct := distinct_apply hd (.invalidate name)
  unfold Tidy
  rw [forall_mem_iff hd', forall_mem_iff hd]
  simp only [value?_invalidate, field?_invalidate]
  constructor
  · intro h
    refine ⟨fun k f hf c hc => ?_, fun f hf hs => ?_⟩
    · by_cases hk : k = name
      · obtain ⟨hvisible, hemptied⟩ :=
          h k { f with valid := false } (by rw [if_pos hk, hf]; rfl) c hc
        exact ⟨hvisible, fun hhidden => absurd (hemptied hhidden).2 Bool.false_ne_true⟩
      · exact h k f (by rw [if_neg hk, hf]) c hc
    · obtain ⟨c, hc⟩ := Option.isSome_iff_exists.1 hs
      obtain ⟨-, hemptied⟩ := h name { f with valid := false } (by rw [if_pos rfl, hf]; rfl) c hc
      by_contra hhidden
      exact Bool.false_ne_true (hemptied (Bool.eq_false_iff.2 hhidden)).2
  · rintro ⟨h, hspared⟩ k f hf c hc
    by_cases hk : k = name
    · rw [if_pos hk, Option.map_eq_some_iff] at hf
      obtain ⟨g, hg, rfl⟩ := hf
      have hvisible : g.visible = true :=
        hspared g (hk ▸ hg) (Option.isSome_iff_exists.2 ⟨c, hc⟩)
      refine ⟨(h k g hg c hc).1, fun hhidden => ?_⟩
      rw [hvisible] at hhidden
      cases hhidden
    · rw [if_neg hk] at hf
      exact h k f hf c hc

/-- The value of a field that is not there cannot be set. -/
theorem set_of_no_field {name : String} (h : form.field? name = none) (value : String) :
    (form.set name value).1 = form := by
  rw [set, h]

theorem tidy_set_iff (hd : form.Distinct) (name value : String) :
    (form.set name value).1.Tidy ↔ (Edit.set name value).Tidies form := by
  cases hf : form.field? name with
  | none =>
    have htidies : (Edit.set name value).Tidies form ↔ form.Tidy := by
      rw [Edit.Tidies, hf, if_neg (by simp)]
    rw [set_of_no_field hf, htidies]
  | some f =>
    have htidies : (Edit.set name value).Tidies form ↔ (form.put name value).Firm := by
      rw [Edit.Tidies, hf, if_pos (by simp)]
    have hput : (form.put name value).Distinct :=
      distinct_of_declared (declared_put form name value) hd
    rw [set_of_field? name value hf, htidies, tidy_adjust_iff hput]

theorem tidy_apply_iff (hd : form.Distinct) (edit : Edit) :
    (edit.apply form).Tidy ↔ edit.Tidies form := by
  cases edit with
  | set name value => exact tidy_set_iff hd name value
  | reset => exact tidy_adjust_iff (distinct_of_declared (declared_renewed form) hd)
  | invalidate name => exact tidy_invalidate_iff hd name

/-- Hidden fields are empty, valid or not. -/
def Emptied (form : Form) : Prop :=
  ∀ f ∈ form.fields, ∀ c ∈ f.shownWhen, f.visible = false → f.value = ""

theorem emptied_adjust (form : Form) : form.adjust.Emptied := by
  intro g hg c hc hhidden
  obtain ⟨f, -, rfl⟩ := List.mem_map.1 hg
  rw [Field.shownWhen_adjust] at hc
  exact (Field.emptied_adjust form.payload hc hhidden).1

theorem emptied_set (h : form.Emptied) (name value : String) : (form.set name value).1.Emptied := by
  cases hf : form.field? name with
  | none => rwa [set_of_no_field hf]
  | some f =>
    rw [set_of_field? name value hf]
    exact emptied_adjust _

theorem emptied_invalidate (hd : form.Distinct) (h : form.Emptied) (name : String) :
    (form.invalidate name).Emptied := by
  have hd' : (form.invalidate name).Distinct := distinct_apply hd (.invalidate name)
  unfold Emptied at h ⊢
  rw [forall_mem_iff hd] at h
  rw [forall_mem_iff hd']
  intro k f hf c hc hhidden
  rw [field?_invalidate] at hf
  split at hf
  · obtain ⟨g, hg, rfl⟩ := Option.map_eq_some_iff.1 hf
    exact h k g hg c hc hhidden
  · exact h k f hf c hc hhidden

theorem emptied_apply (hd : form.Distinct) (h : form.Emptied) (edit : Edit) :
    (edit.apply form).Emptied := by
  cases edit with
  | set name value => exact emptied_set h name value
  | reset => exact emptied_adjust _
  | invalidate name => exact emptied_invalidate hd h name

/-- No edit marks a field as invalid while it is hidden. -/
def SparesHidden : Form → List Edit → Prop
  | _, [] => True
  | form, edit :: edits => edit.Spares form ∧ SparesHidden (edit.apply form) edits

instance decidableSparesHidden : (form : Form) → (edits : List Edit) →
    Decidable (form.SparesHidden edits)
  | _, [] => inferInstanceAs (Decidable True)
  | form, edit :: edits =>
    have := decidableSparesHidden (edit.apply form) edits
    inferInstanceAs (Decidable (edit.Spares form ∧ SparesHidden (edit.apply form) edits))

/-- In a flat form every edit leaves a tidy form that finds one and spares hidden fields. -/
theorem tidies_of_flat (hflat : form.Flat) (h : form.Tidy) {edit : Edit} (hs : edit.Spares form) :
    edit.Tidies form := by
  cases edit with
  | set name value =>
    rw [Edit.Tidies]
    split
    · exact firm_of_flat (flat_of_declared (declared_put form name value) hflat)
    · exact h
  | reset => exact firm_of_flat (flat_of_declared (declared_renewed form) hflat)
  | invalidate name => exact ⟨h, hs⟩

theorem tidy_foldl (hd : form.Distinct) (hflat : form.Flat) (h : form.Tidy) {edits : List Edit}
    (hs : form.SparesHidden edits) : (edits.foldl Edit.apply form).Tidy := by
  induction edits generalizing form with
  | nil => exact h
  | cons edit edits ih =>
    obtain ⟨hspares, hrest⟩ := hs
    exact ih (distinct_apply hd edit) (flat_of_declared (declared_apply form edit) hflat)
      ((tidy_apply_iff hd edit).2 (tidies_of_flat hflat h hspares)) hrest

end

/-! ### Runs of edits -/

/-- The form that is built from fields and then edited. -/
def edited (fields : List Field) (required : String) (edits : List Edit) : Form :=
  edits.foldl Edit.apply (ofFields fields required)

section

variable {fields : List Field} (hd : (fields.map (·.name)).Nodup) (required : String)
  (edits : List Edit)
include hd

theorem distinct_ofFields : (ofFields fields required).Distinct :=
  distinct_of_declared (declared_reset ⟨fields, required⟩) hd

theorem distinct_edited : (edited fields required edits).Distinct := by
  induction edits using List.reverseRecOn with
  | nil => exact distinct_ofFields hd required
  | append_singleton edits edit ih =>
    rw [edited, List.foldl_append]
    exact distinct_apply ih edit

theorem emptied_edited : (edited fields required edits).Emptied := by
  induction edits using List.reverseRecOn with
  | nil => exact emptied_adjust _
  | append_singleton edits edit ih =>
    rw [edited, List.foldl_append]
    exact emptied_apply (distinct_edited hd required edits) ih edit

theorem tidy_ofFields_iff : (ofFields fields required).Tidy ↔ (renewed ⟨fields, required⟩).Firm :=
  tidy_adjust_iff (distinct_of_declared (declared_renewed ⟨fields, required⟩) hd)

/-- In every form that was built and edited hidden fields are empty, and to adjust it once more
changes nothing exactly if it is tidy. A new form is tidy if no condition hangs on a field that is
cleared at once; an edit leaves a tidy form in exactly the cases that `Tidies` lists. So a form is
tidy all along if its conditions are only about fields without conditions, and no hidden field is
marked as invalid. -/
theorem conditions_hold_iff :
    (edited fields required edits).Emptied ∧
    ((edited fields required edits).adjust = edited fields required edits ↔
      (edited fields required edits).Tidy) ∧
    ((edited fields required []).Tidy ↔ (renewed ⟨fields, required⟩).Firm) ∧
    (∀ edit, (edited fields required (edits ++ [edit])).Tidy ↔
      edit.Tidies (edited fields required edits)) ∧
    (Flat ⟨fields, required⟩ → (ofFields fields required).SparesHidden edits →
      (edited fields required edits).Tidy) := by
  have hdistinct := distinct_edited hd required edits
  refine ⟨emptied_edited hd required edits, adjust_eq_self_iff hdistinct,
    tidy_ofFields_iff hd required, fun edit => ?_, fun hflat hspares => ?_⟩
  · rw [edited, List.foldl_append]
    exact tidy_apply_iff hdistinct edit
  · have hflat' : (ofFields fields required).Flat :=
      flat_of_declared (declared_reset ⟨fields, required⟩) hflat
    have hfirm : (renewed ⟨fields, required⟩).Firm :=
      firm_of_flat (flat_of_declared (declared_renewed ⟨fields, required⟩) hflat)
    exact tidy_foldl (distinct_ofFields hd required) hflat'
      ((tidy_ofFields_iff hd required).2 hfirm) hspares

end

/-- The fields of the dialog for a new token. -/
def tokenFields : List Field := [Tokens.plaintextField, Tokens.ttlField, Tokens.customTtlField]

/-- A lifetime is entered, the plaintext is missed, and the choice is taken back. -/
def choosing : List Edit := [.set "ttl_select" "custom", .set "ttl_custom" "90",
  .invalidate "plaintext", .set "ttl_select" "none"]

theorem conditions_hold_of_choosing : (tokenFields.map (·.name)).Nodup ∧
    Flat ⟨tokenFields, "plaintext"⟩ ∧ (ofFields tokenFields "plaintext").SparesHidden choosing ∧
    (edited tokenFields "plaintext" choosing).Tidy := by
  have hd : (tokenFields.map (·.name)).Nodup := by decide
  have hflat : Flat ⟨tokenFields, "plaintext"⟩ := by decide
  have hspares : (ofFields tokenFields "plaintext").SparesHidden choosing := by decide
  exact ⟨hd, hflat, hspares,
    (conditions_hold_iff hd "plaintext" choosing).2.2.2.2 hflat hspares⟩

/-- An amount is asked for if the unit is hours, and the unit if the lifetime is of one's own. -/
def chained : List Field := [
  .select "lifetime" "Lifetime" [⟨"none", "None"⟩, ⟨"own", "Own"⟩],
  { Field.select "unit" "Unit" [⟨"days", "Days"⟩, ⟨"hours", "Hours"⟩] with
    shownWhen := some ("lifetime", "own") },
  { Field.text "amount" "Amount" with shownWhen := some ("unit", "hours") }]

/-- The lifetime is set to one's own, which shows the unit, and is taken back. -/
def takingBack : List Edit :=
  [.set "lifetime" "own", .set "unit" "hours", .set "lifetime" "none"]

/-- When the lifetime is taken back, the unit is hidden and cleared, and the amount stays on the
screen until it is looked at once more. A hidden field that is marked as invalid stays so. -/
theorem amount_stays_visible : (chained.map (·.name)).Nodup ∧
    (edited chained "amount" takingBack).value? "unit" = some "" ∧
    ((edited chained "amount" takingBack).field? "amount").map (·.visible) = some true ∧
    (edited chained "amount" takingBack).adjust ≠ edited chained "amount" takingBack ∧
    ¬(edited chained "amount" takingBack).Tidy ∧
    ¬(edited chained "amount" [.invalidate "amount"]).Tidy := by
  decide

end Form

end TokenConsole
