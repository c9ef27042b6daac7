import Mathlib.Data.List.Nodup
import TokenConsole.Form

/-!
# What the fields of a form hold

A form changes what its fields hold and whether they are shown, and nothing else about them. The
payload has the value of each field under its name, as no two fields share a name.
-/
namespace TokenConsole

namespace Dictionary

variable {α : Type}

theorem get?_cons (key : String) (value : α) (d : Dictionary α) (k : String) :
    get? ((key, value) :: d) k = if k = key then some value else d.get? k := by
  rw [get?, List.lookup_cons]
  by_cases h : k = key
  · rw [if_pos h, beq_iff_eq.2 h]
  · rw [if_neg h, beq_eq_false_iff_ne.2 h]
    rfl

theorem get?_insert (key : String) (value : α) (d : Dictionary α) (k : String) :
    (insert key value d).get? k = if k = key then some value else d.get? k := by
  induction d with
  | nil => exact get?_cons key value [] k
  | cons e rest ih =>
    obtain ⟨key', v⟩ := e
    unfold insert
    split
    · next he =>
      subst he
      rw [get?_cons, get?_cons]
      by_cases h : k = key <;> simp [h]
    · next he =>
      split
      · exact get?_cons key value _ k
      · rw [get?_cons, get?_cons, ih]
        by_cases h : k = key'
        · have hne : k ≠ key := fun hk => he (hk.symm.trans h)
          rw [if_pos h, if_neg hne, if_pos h]
        · rw [if_neg h, if_neg h]

/-- Each entry is found under its key, as long as no two entries share one. -/
theorem get?_ofList {entries : List (String × α)} (h : (entries.map Prod.fst).Nodup) (k : String) :
    (ofList entries).get? k = entries.lookup k := by
  suffices hall : ∀ d : Dictionary α, (entries.foldl (fun d e => insert e.1 e.2 d) d).get? k =
      (entries.lookup k).or (d.get? k) by
    rw [ofList, hall]
    exact Option.or_none
  induction entries with
  | nil => exact fun d => rfl
  | cons e rest ih =>
    obtain ⟨hfresh, hrest⟩ := List.nodup_cons.1 h
    intro d
    rw [List.foldl_cons, ih hrest, get?_insert, List.lookup_cons]
    by_cases hk : k = e.1
    · have hnone : rest.lookup k = none := by
        rw [List.lookup_eq_none_iff]
        intro p hp
        have hne : k ≠ p.1 := fun he => hfresh (hk ▸ he ▸ List.mem_map_of_mem hp)
        exact bne_iff_ne.2 hne
      rw [if_pos hk, beq_iff_eq.2 hk, hnone]
      rfl
    · rw [if_neg hk, beq_eq_false_iff_ne.2 hk]

theorem perm_insert {key : String} {d : Dictionary α} (h : key ∉ d.map Prod.fst) (value : α) :
    (insert key value d).Perm ((key, value) :: d) := by
  induction d with
  | nil => exact .refl _
  | cons e rest ih =>
    obtain ⟨hne, hrest⟩ := not_or.1 (mt List.mem_cons.2 h)
    unfold insert
    rw [if_neg hne]
    split
    · exact .refl _
    · exact ((ih hrest).cons e).trans (.swap (key, value) e rest)

/-- Each entry is there once, and nothing else, as long as no two entries share a key. -/
theorem perm_ofList {entries : List (String × α)} (h : (entries.map Prod.fst).Nodup) :
    (ofList entries).Perm entries := by
  suffices hall : ∀ d : Dictionary α, ((d ++ entries).map Prod.fst).Nodup →
      (entries.foldl (fun d e => insert e.1 e.2 d) d).Perm (d ++ entries) from hall [] h
  clear h
  induction entries with
  | nil =>
    intro d _
    rw [List.append_nil]
    exact .refl d
  | cons e rest ih =>
    intro d hd
    have hkeys : ((e :: d ++ rest).map Prod.fst).Nodup :=
      (List.perm_middle.map Prod.fst).nodup_iff.1 hd
    have hfresh : e.1 ∉ d.map Prod.fst := by
      rw [List.cons_append, List.map_cons, List.nodup_cons, List.map_append] at hkeys
      exact fun hmem => hkeys.1 (List.mem_append_left _ hmem)
    have hinsert : (insert e.1 e.2 d ++ rest).Perm (e :: d ++ rest) :=
      (perm_insert hfresh e.2).append_right rest
    have hrest : (rest.foldl (fun d e => insert e.1 e.2 d) (insert e.1 e.2 d)).Perm
        (insert e.1 e.2 d ++ rest) := ih _ ((hinsert.map Prod.fst).nodup_iff.2 hkeys)
    exact (hrest.trans hinsert).trans List.perm_middle.symm

end Dictionary

namespace Field

/-- What lasts of a field: all but what it holds and, if it depends on another one, whether it is
shown. -/
def lasting (f : Field) : Field :=
  { f with value := "", valid := true, visible := f.visible || f.shownWhen.isSome }

/-- The field as it was declared: without what it holds and whether it is shown. -/
def declared (f : Field) : Field := { f with value := "", valid := true, visible := true }

theorem name_adjust (values : Payload) (f : Field) : (f.adjust values).name = f.name := by
  unfold adjust
  split
  · rfl
  · split <;> rfl

theorem lasting_adjust (values : Payload) (f : Field) :
    (f.adjust values).lasting = f.lasting := by
  unfold adjust
  split
  · rfl
  · next hs => split <;> simp [lasting, hs]

theorem isTextInput_of_lasting {f f' : Field} (h : f.lasting = f'.lasting) :
    f.isTextInput = f'.isTextInput := by
  show f.lasting.isTextInput = f'.lasting.isTextInput
  rw [h]

theorem isTextInput_adjust (values : Payload) (f : Field) :
    (f.adjust values).isTextInput = f.isTextInput :=
  isTextInput_of_lasting (f.lasting_adjust values)

theorem adjust_of_always {f : Field} (h : f.shownWhen = none) (values : Payload) :
    f.adjust values = f := by
  rw [adjust, h]

theorem adjust_of_shown {f : Field} {name expected : String}
    (h : f.shownWhen = some (name, expected)) {values : Payload}
    (hv : values.get? name = some expected) : f.adjust values = { f with visible := true } := by
  have hs : f.isShown values = true := by simp [isShown, h, hv]
  simp [adjust, h, hs]

theorem adjust_of_hidden {f : Field} {name expected : String}
    (h : f.shownWhen = some (name, expected)) {values : Payload}
    (hv : values.get? name ≠ some expected) :
    f.adjust values = { f with visible := false, value := "", valid := true } := by
  have hs : f.isShown values = false := by simp [isShown, h, hv]
  simp [adjust, h, hs]

end Field

namespace Form

/-- What lasts of a form, whatever is done to it. -/
def lasting (form : Form) : Form := { form with fields := form.fields.map Field.lasting }

/-- The form as it was declared. -/
def declared (form : Form) : Form := { form with fields := form.fields.map Field.declared }

/-- No two fields share a name. -/
def Distinct (form : Form) : Prop := (form.fields.map (·.name)).Nodup

instance (form : Form) : Decidable form.Distinct := inferInstanceAs (Decidable (List.Nodup _))

def value? (form : Form) (name : String) : Option String := (form.field? name).map (·.value)

/-- The form with every field at its initial value, before it is adjusted. -/
def renewed (form : Form) : Form := { form with fields := form.fields.map Field.reset }

theorem payload_get? {form : Form} (h : form.Distinct) (name : String) :
    form.payload.get? name = form.value? name := by
  have hkeys : ((form.fields.map fun f => (f.name, f.value)).map Prod.fst).Nodup := by
    rw [List.map_map]
    exact h
  rw [payload, Dictionary.get?_ofList hkeys, value?, field?]
  generalize form.fields = fs
  induction fs with
  | nil => rfl
  | cons f fs ih =>
    rw [List.map_cons, List.lookup_cons, List.find?_cons, Bool.beq_comm]
    cases f.name == name with
    | true => rfl
    | false => exact ih

/-- The payload has the value of each field under its name, and nothing else. -/
theorem payload_perm {form : Form} (h : form.Distinct) :
    form.payload.Perm (form.fields.map fun f => (f.name, f.value)) := by
  apply Dictionary.perm_ofList
  rw [List.map_map]
  exact h

theorem field?_eq_some {form : Form} {name : String} {f : Field} (h : form.field? name = some f) :
    f ∈ form.fields ∧ f.name = name := by
  have hname := List.find?_some h
  exact ⟨List.mem_of_find?_eq_some h, beq_iff_eq.1 hname⟩

theorem field?_of_mem {form : Form} (hd : form.Distinct) {f : Field} (hf : f ∈ form.fields) :
    form.field? f.name = some f := by
  have hsome : (form.field? f.name).isSome = true :=
    List.find?_isSome.2 ⟨f, hf, beq_self_eq_true f.name⟩
  obtain ⟨g, hg⟩ := Option.isSome_iff_exists.1 hsome
  obtain ⟨hmem, hname⟩ := field?_eq_some hg
  rw [hg, List.inj_on_of_nodup_map hd hmem hf hname]

theorem position?_of_getElem? {form : Form} (h : form.Distinct) {p : Nat} {f : Field}
    (hp : form.fields[p]? = some f) : form.position? f.name = some p := by
  obtain ⟨hlt, rfl⟩ := List.getElem?_eq_some_iff.1 hp
  rw [position?, List.findIdx?_eq_some_iff_getElem]
  refine ⟨hlt, beq_self_eq_true _, fun j hj => ?_⟩
  have hne : form.fields[j].name ≠ form.fields[p].name := by
    have hnames : (form.fields.map (·.name)).Nodup := h
    have hpairwise := List.pairwise_iff_getElem.1 hnames j p (by simp; omega) (by simpa) hj
    simpa using hpairwise
  simpa using hne

theorem modifyFirst_eq_set {name : String} (g : Field → Field) {fs : List Field} {p : Nat}
    {f : Field} (hfind : fs.findIdx? (·.name == name) = some p) (hp : fs[p]? = some f) :
    modifyFirst name g fs = fs.set p (g f) := by
  induction fs generalizing p with
  | nil => cases hp
  | cons x fs ih =>
    rw [List.findIdx?_cons] at hfind
    unfold modifyFirst
    by_cases hx : x.name = name
    · rw [if_pos (beq_iff_eq.2 hx)] at hfind
      cases hfind
      cases hp
      rw [if_pos hx]
      rfl
    · rw [if_neg (mt beq_iff_eq.1 hx), Option.map_eq_some_iff] at hfind
      obtain ⟨q, hq, rfl⟩ := hfind
      rw [if_neg hx, ih hq hp]
      rfl

/-- Of a name that only one field has, the first field is the only one. -/
theorem modifyFirst_eq_map (g : Field → Field) (name : String) {fs : List Field}
    (h : (fs.map (·.name)).Nodup) :
    modifyFirst name g fs = fs.map fun f => if f.name = name then g f else f := by
  induction fs with
  | nil => rfl
  | cons f fs ih =>
    obtain ⟨hfresh, hrest⟩ := List.nodup_cons.1 h
    unfold modifyFirst
    rw [List.map_cons]
    by_cases hf : f.name = name
    · have hsame : fs.map (fun f => if f.name = name then g f else f) = fs.map id := by
        apply List.map_congr_left
        intro x hx
        have hne : x.name ≠ name := fun he =>
          hfresh (List.mem_map.2 ⟨x, hx, he.trans hf.symm⟩)
        rw [if_neg hne, id]
      rw [if_pos hf, if_pos hf, hsame, List.map_id]
    · rw [if_neg hf, if_neg hf, ih hrest]

/-! ### How fields are found in a changed form -/

section

variable {g : Field → Field} (hg : ∀ f, (g f).name = f.name)
include hg

theorem find?_map_fields (fs : List Field) (k : String) :
    (fs.map g).find? (·.name == k) = (fs.find? (·.name == k)).map g := by
  rw [List.find?_map]
  congr 2
  funext f
  simp only [Function.comp_apply, hg]

theorem find?_modifyFirst (name : String) (fs : List Field) (k : String) :
    (modifyFirst name g fs).find? (·.name == k) =
      if k = name then (fs.find? (·.name == k)).map g else fs.find? (·.name == k) := by
  induction fs with
  | nil => simp [modifyFirst]
  | cons f fs ih =>
    unfold modifyFirst
    by_cases hf : f.name = name
    · rw [if_pos hf, List.find?_cons, List.find?_cons, hg, hf]
      by_cases hk : k = name
      · rw [if_pos hk, beq_iff_eq.2 hk.symm]
        rfl
      · rw [if_neg hk, beq_eq_false_iff_ne.2 (Ne.symm hk)]
    · rw [if_neg hf, List.find?_cons, List.find?_cons, ih]
      by_cases hk : f.name = k
      · have hne : k ≠ name := fun he => hf (hk.trans he)
        rw [if_neg hne, if_neg hne]
      · rw [beq_eq_false_iff_ne.2 hk]

end

theorem map_modifyFirst {β : Type} {g : Field → Field} {p : Field → β} (h : ∀ f, p (g f) = p f)
    (name : String) (fs : List Field) : (modifyFirst name g fs).map p = fs.map p := by
  induction fs with
  | nil => rfl
  | cons f fs ih =>
    unfold modifyFirst
    split
    · rw [List.map_cons, List.map_cons, h]
    · rw [List.map_cons, List.map_cons, ih]

variable (form : Form) (name value k : String)

theorem field?_put : (form.put name value).field? k = if k = name then
    (form.field? k).map fun f => { f with value := value, valid := true } else form.field? k :=
  find?_modifyFirst (g := fun f => { f with value := value, valid := true }) (fun _ => rfl) name
    form.fields k

theorem field?_invalidate : (form.invalidate name).field? k = if k = name then
    (form.field? k).map fun f => { f with valid := false } else form.field? k :=
  find?_modifyFirst (g := fun f => { f with valid := false }) (fun _ => rfl) name form.fields k

theorem field?_adjust : form.adjust.field? k = (form.field? k).map (·.adjust form.payload) :=
  find?_map_fields (Field.name_adjust _) form.fields k

theorem field?_renewed : form.renewed.field? k = (form.field? k).map Field.reset :=
  find?_map_fields (g := Field.reset) (fun _ => rfl) form.fields k

theorem field?_declared : form.declared.field? k = (form.field? k).map Field.declared :=
  find?_map_fields (g := Field.declared) (fun _ => rfl) form.fields k

theorem lasting_put : (form.put name value).lasting = form.lasting :=
  congrArg (Form.mk · form.required)
    (map_modifyFirst (g := fun f => { f with value := value, valid := true }) (fun _ => rfl) name
      form.fields)

theorem lasting_adjust : form.adjust.lasting = form.lasting := by
  refine congrArg (Form.mk · form.required) ?_
  rw [adjust, List.map_map]
  exact List.map_congr_left fun f _ => f.lasting_adjust _

theorem lasting_renewed : form.renewed.lasting = form.lasting := by
  refine congrArg (Form.mk · form.required) ?_
  rw [renewed, List.map_map]
  rfl

theorem lasting_reset : form.reset.lasting = form.lasting :=
  (lasting_adjust _).trans (lasting_renewed form)

theorem lasting_set : (form.set name value).1.lasting = form.lasting := by
  unfold set
  split
  · rfl
  · rw [lasting_adjust, lasting_put]

theorem lasting_invalidate : (form.invalidate name).lasting = form.lasting :=
  congrArg (Form.mk · form.required)
    (map_modifyFirst (g := fun f => { f with valid := false }) (fun _ => rfl) name form.fields)

/-- The declaration of a form is a part of what lasts. -/
theorem declared_of_lasting {form form' : Form} (h : form.lasting = form'.lasting) :
    form.declared = form'.declared := by
  have hdeclared : ∀ form : Form, form.lasting.declared = form.declared := by
    intro form
    refine congrArg (Form.mk · form.required) ?_
    rw [lasting, List.map_map]
    rfl
  rw [← hdeclared form, h, hdeclared]

theorem declared_put : (form.put name value).declared = form.declared :=
  declared_of_lasting (form.lasting_put name value)

theorem declared_adjust : form.adjust.declared = form.declared :=
  declared_of_lasting form.lasting_adjust

theorem declared_renewed : form.renewed.declared = form.declared :=
  declared_of_lasting form.lasting_renewed

theorem declared_reset : form.reset.declared = form.declared :=
  declared_of_lasting form.lasting_reset

theorem declared_set : (form.set name value).1.declared = form.declared :=
  declared_of_lasting (form.lasting_set name value)

theorem declared_invalidate : (form.invalidate name).declared = form.declared :=
  declared_of_lasting (form.lasting_invalidate name)

theorem value?_put : (form.put name value).value? k =
    if k = name then (form.value? k).map fun _ => value else form.value? k := by
  rw [value?, field?_put, value?]
  split
  · rw [Option.map_map, Option.map_map]
    rfl
  · rfl

theorem value?_invalidate : (form.invalidate name).value? k = form.value? k := by
  rw [value?, field?_invalidate, value?]
  split
  · rw [Option.map_map]
    rfl
  · rfl

variable {form}

theorem value?_renewed {f : Field} (h : form.field? k = some f) :
    form.renewed.value? k = some f.initial := by
  rw [value?, field?_renewed, h]
  rfl

theorem value?_adjust_of_always {f : Field} (h : form.field? k = some f) (hs : f.shownWhen = none) :
    form.adjust.value? k = form.value? k := by
  rw [value?, field?_adjust, h, value?, h]
  exact congrArg (fun f => some f.value) (Field.adjust_of_always hs _)

theorem set_of_field? {f : Field} (h : form.field? name = some f) :
    (form.set name value).1 = (form.put name value).adjust := by
  rw [set, h]

/-- A form has the fields that it was declared with. -/
theorem distinct_of_declared {form' : Form} (h : form.declared = form'.declared)
    (hd : form'.Distinct) : form.Distinct := by
  have hnames : form.declared.fields.map (·.name) = form'.declared.fields.map (·.name) := by rw [h]
  simp only [declared, List.map_map] at hnames
  unfold Distinct at hd ⊢
  exact hnames ▸ hd

theorem field?_of_declared {form' : Form} (h : form.declared = form'.declared) {g : Field}
    (hg : form'.field? k = some g) : ∃ f, form.field? k = some f ∧ f.declared = g.declared := by
  have hd : (form.field? k).map Field.declared = some g.declared := by
    rw [← field?_declared, h, field?_declared, hg]
    rfl
  exact Option.map_eq_some_iff.1 hd

theorem value?_of_declared {form' : Form} (h : form.declared = form'.declared) {g : Field}
    (hg : form'.field? k = some g) : ∃ v, form.value? k = some v := by
  obtain ⟨f, hf, -⟩ := field?_of_declared k h hg
  exact ⟨f.value, by rw [value?, hf]; rfl⟩

end Form

end TokenConsole
