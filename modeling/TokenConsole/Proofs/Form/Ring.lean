import TokenConsole.Proofs.Form.Values

/-!
# The focus ring of a form, and the form made anew

The ring has the position of each text input that is shown, once and in the order of the fields.
What a form is like after a reset, its ring included, depends only on what lasts of it.
-/
namespace TokenConsole

/-- Once its values are reset and it is adjusted, nothing is left of what the field held before. -/
theorem Field.adjust_reset_lasting (values : Payload) (f : Field) :
    f.lasting.reset.adjust values = f.reset.adjust values := by
  cases hs : f.shownWhen with
  | none =>
    have hlasting : f.lasting.reset = f.reset := by simp [lasting, reset, hs]
    rw [hlasting]
  | some c =>
    have hshown : f.lasting.reset.shownWhen = some c := hs
    by_cases hv : values.get? c.1 = some c.2
    · rw [adjust_of_shown hshown hv, adjust_of_shown (f := f.reset) hs hv]
      rfl
    · rw [adjust_of_hidden hshown hv, adjust_of_hidden (f := f.reset) hs hv]
      rfl

namespace Form

theorem reset_lasting (form : Form) : form.lasting.reset = form.reset := by
  have hpayload : form.lasting.renewed.payload = form.renewed.payload := by
    unfold payload
    congr 1
    simp only [lasting, renewed, List.map_map]
    rfl
  have hfields : form.lasting.renewed.fields.map (·.adjust form.renewed.payload) =
      form.renewed.fields.map (·.adjust form.renewed.payload) := by
    simp only [lasting, renewed, List.map_map]
    exact List.map_congr_left fun f _ => f.adjust_reset_lasting _
  calc
    form.lasting.reset = form.lasting.renewed.adjust := rfl
    _ = ⟨form.renewed.fields.map (·.adjust form.renewed.payload), form.required⟩ := by
      rw [adjust, hpayload, hfields]
      rfl
    _ = form.reset := rfl

/-- A form is made anew from what lasts of it. -/
theorem reset_of_lasting {form form' : Form} (h : form.lasting = form'.lasting) :
    form.reset = form'.reset := by
  rw [← form.reset_lasting, h, form'.reset_lasting]

theorem reset_ofFields (fields : List Field) (required : String) :
    (ofFields fields required).reset = ofFields fields required :=
  reset_of_lasting (lasting_reset ⟨fields, required⟩)

/-! ### The ring -/

section

variable (form : Form)

theorem mem_focusRing {p : Nat} : p ∈ form.focusRing ↔
    ∃ f, form.fields[p]? = some f ∧ f.visible = true ∧ f.isTextInput = true := by
  simp only [focusRing, List.mem_map, List.mem_filter, Bool.and_eq_true]
  constructor
  · rintro ⟨⟨f, q⟩, ⟨hmem, hf⟩, rfl⟩
    exact ⟨f, List.mk_mem_zipIdx_iff_getElem?.1 hmem, hf⟩
  · rintro ⟨f, hp, hf⟩
    exact ⟨⟨f, p⟩, ⟨List.mk_mem_zipIdx_iff_getElem?.2 hp, hf⟩, rfl⟩

/-- The ring follows the order of the fields. -/
theorem focusRing_pairwise : form.focusRing.Pairwise (· < ·) := by
  have hall : (form.fields.zipIdx.map (·.2)).Pairwise (· < ·) := by
    rw [List.zipIdx_map_snd]
    exact List.pairwise_lt_range'
  apply List.Pairwise.sublist _ hall
  exact List.filter_sublist.map _

theorem focusRing_nodup : form.focusRing.Nodup :=
  form.focusRing_pairwise.imp fun h => Nat.ne_of_lt h

end

end Form

end TokenConsole
