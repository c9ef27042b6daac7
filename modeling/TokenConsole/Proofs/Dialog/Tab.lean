import Mathlib.Data.List.Perm.Subperm
import Mathlib.Data.Int.ModEq
import Mathlib.Logic.Function.Iterate
import Mathlib.Tactic.Ring
import TokenConsole.Proofs.Dialog.Entry
import TokenConsole.Proofs.Form.Ring
import TokenConsole.Tokens

/-!
# The Tab key

Tab moves the focus around the ring of a dialog, forward or backward by one input a press, and
changes nothing else. A focus that is not on the ring counts as none: from there it enters the ring
at one of its ends.
-/
namespace TokenConsole.Dialog

variable {α : Type}

/-- The message of the key, backward if shift is held. -/
def tab (forward : Bool) : Message α := if forward then .focusNext else .focusPrevious

/-- The dialog after a press of the key. -/
def tabbed (forward : Bool) (d : Dialog α) : Dialog α := (d.moveFocus forward).1

/-- The focus is on the input at an index of the ring. -/
def FocusAt (d : Dialog α) (i : Nat) : Prop :=
  i < d.form.focusRing.length ∧ d.focused = d.form.focusRing[i]?

/-- How far a press moves the focus. -/
def stride (forward : Bool) : Int := if forward then 1 else -1

/-! ### One press -/

section

variable {d : Dialog α} {i : Nat}

theorem neighbour_lt {n : Nat} (hn : 0 < n) (current : Option Nat) (forward : Bool) :
    neighbour n current forward < n := by
  cases current with
  | none =>
    cases forward with
    | true => exact hn
    | false => exact Nat.sub_lt hn Nat.one_pos
  | some i => cases forward <;> exact Nat.mod_lt _ hn

/-- Around the ring the neighbours are one apart. -/
theorem neighbour_some {n : Nat} (hn : 0 < n) (i : Nat) (forward : Bool) :
    (neighbour n (some i) forward : Int) = (i + stride forward) % n := by
  cases forward with
  | true => exact Int.natCast_mod (i + 1) n
  | false =>
    have hcast : ((i + n - 1 : Nat) : Int) = i + -1 + n := by omega
    show (((i + n - 1) % n : Nat) : Int) = (i + -1) % n
    rw [Int.natCast_mod, hcast, Int.add_emod_right]

theorem FocusAt.findIdx? (h : d.FocusAt i) :
    d.focused.bind (fun p => d.form.focusRing.findIdx? (· == p)) = some i := by
  obtain ⟨hi, hfocused⟩ := h
  rw [hfocused, List.getElem?_eq_getElem hi, Option.bind_some,
    List.findIdx?_eq_some_iff_getElem]
  refine ⟨hi, beq_self_eq_true _, fun j hj he => ?_⟩
  have heq : j = i := d.form.focusRing_nodup.getElem_inj_iff.1 (beq_iff_eq.1 he)
  exact Nat.ne_of_lt hj heq

theorem moveFocus_of_empty (h : d.form.focusRing = []) (forward : Bool) :
    d.moveFocus forward = (d, []) := by
  rw [moveFocus, if_pos h]

theorem moveFocus_of_ring (h : d.form.focusRing ≠ []) (forward : Bool) :
    d.moveFocus forward = (d.tabbed forward, d.focusOn (d.tabbed forward).focused) := by
  simp only [tabbed, moveFocus, if_neg h]

/-- A press leads to the neighbour of the input in focus, or into the ring. -/
theorem focusAt_tabbed (h : d.form.focusRing ≠ []) (forward : Bool) :
    (d.tabbed forward).FocusAt (neighbour d.form.focusRing.length
      (d.focused.bind fun p => d.form.focusRing.findIdx? (· == p)) forward) := by
  have hlength : 0 < d.form.focusRing.length := List.length_pos_iff.2 h
  rw [tabbed, moveFocus, if_neg h]
  exact ⟨neighbour_lt hlength _ forward, rfl⟩

end

section

variable {d : Dialog α} {i : Nat}

theorem FocusAt.ring_ne_nil (h : d.FocusAt i) : d.form.focusRing ≠ [] :=
  List.length_pos_iff.1 (Nat.lt_of_le_of_lt (Nat.zero_le i) h.1)

theorem tabbed_eq (forward : Bool) (d : Dialog α) :
    d.tabbed forward = { d with focused := (d.tabbed forward).focused } := by
  obtain ⟨next, hd, -⟩ := d.moveFocus_cases forward
  rw [tabbed, hd]

theorem iterate_tabbed_eq (forward : Bool) (k : Nat) (d : Dialog α) :
    (tabbed forward)^[k] d = { d with focused := ((tabbed forward)^[k] d).focused } := by
  induction k generalizing d with
  | zero => rfl
  | succ k ih =>
    rw [Function.iterate_succ_apply, ih, tabbed_eq]

/-- After `k` presses the focus is `k` inputs further. -/
theorem FocusAt.iterate (h : d.FocusAt i) (forward : Bool) (k : Nat) :
    ∃ j : Nat, ((tabbed forward)^[k] d).FocusAt j ∧
      (j : Int) = (i + k * stride forward) % d.form.focusRing.length := by
  have hlength : 0 < d.form.focusRing.length := List.length_pos_iff.2 h.ring_ne_nil
  induction k with
  | zero =>
    refine ⟨i, h, ?_⟩
    have hi : (i : Int) < d.form.focusRing.length := by exact_mod_cast h.1
    rw [Int.emod_eq_of_lt (by omega) (by omega)]
    omega
  | succ k ih =>
    obtain ⟨j, hj, hval⟩ := ih
    have hform : ((tabbed forward)^[k] d).form = d.form := by rw [iterate_tabbed_eq]
    have hnext := focusAt_tabbed hj.ring_ne_nil forward
    rw [hj.findIdx?, hform] at hnext
    refine ⟨neighbour d.form.focusRing.length (some j) forward, ?_, ?_⟩
    · rw [Function.iterate_succ_apply']
      exact hnext
    · rw [neighbour_some hlength, hval, Int.emod_add_emod]
      congr 1
      push_cast
      ring

/-- A dialog that differs in its focus only is the same if the focus is at the same index. -/
theorem FocusAt.eq {d' : Dialog α} (h : d.FocusAt i) (h' : d'.FocusAt i)
    (hd : d' = { d with focused := d'.focused }) : d' = d := by
  have hform : d'.form = d.form := by rw [hd]
  rw [hd, h'.2, hform, ← h.2]

theorem FocusAt.iterate_forward (h : d.FocusAt i) (k : Nat) :
    ((tabbed true)^[k] d).FocusAt ((i + k) % d.form.focusRing.length) := by
  obtain ⟨j, hj, hval⟩ := h.iterate true k
  have heq : j = (i + k) % d.form.focusRing.length := by
    simp only [stride, if_true, mul_one] at hval
    exact_mod_cast hval
  exact heq ▸ hj

theorem FocusAt.iterate_backward (h : d.FocusAt i) (k : Nat) :
    ∃ j : Nat, ((tabbed false)^[k] d).FocusAt j ∧
      (j : Int) = (i - k) % d.form.focusRing.length := by
  obtain ⟨j, hj, hval⟩ := h.iterate false k
  refine ⟨j, hj, ?_⟩
  rw [hval, stride, if_neg Bool.false_ne_true, mul_neg_one, sub_eq_add_neg]

/-- A press takes the one before it back if it goes the other way. -/
theorem FocusAt.tabbed_tabbed (h : d.FocusAt i) (forward : Bool) :
    (d.tabbed forward).tabbed (!forward) = d := by
  obtain ⟨j, hj, hval⟩ := h.iterate forward 1
  obtain ⟨j', hj', hval'⟩ := hj.iterate (!forward) 1
  have hd : (d.tabbed forward).tabbed (!forward) =
      { d with focused := ((d.tabbed forward).tabbed (!forward)).focused } := by
    rw [tabbed_eq, tabbed_eq forward d]
  have hform : (d.tabbed forward).form = d.form := by rw [tabbed_eq]
  have hi : (i : Int) < d.form.focusRing.length := by exact_mod_cast h.1
  have hback : stride (!forward) = -stride forward := by cases forward <;> rfl
  have heq : (j' : Int) = i := by
    simp only [Function.iterate_one] at hval'
    rw [hform, hval, Int.emod_add_emod, hback] at hval'
    rw [hval', Nat.cast_one, one_mul, one_mul, add_neg_cancel_right]
    exact Int.emod_eq_of_lt (by omega) hi
  have hindex : j' = i := by exact_mod_cast heq
  exact h.eq (hindex ▸ hj') hd

/-- As many presses as there are inputs lead back. -/
theorem FocusAt.iterate_length (h : d.FocusAt i) (forward : Bool) :
    (tabbed forward)^[d.form.focusRing.length] d = d := by
  obtain ⟨j, hj, hval⟩ := h.iterate forward d.form.focusRing.length
  have hi : (i : Int) < d.form.focusRing.length := by exact_mod_cast h.1
  have heq : (j : Int) = i := by
    rw [hval, Int.add_mul_emod_self_left]
    exact Int.emod_eq_of_lt (by omega) hi
  have hindex : j = i := by exact_mod_cast heq
  exact h.eq (hindex ▸ hj) (iterate_tabbed_eq forward _ d)

/-- Within one round no input gets the focus twice. -/
theorem FocusAt.iterate_inj (h : d.FocusAt i) (forward : Bool) {k l : Nat}
    (hk : k < d.form.focusRing.length) (hl : l < d.form.focusRing.length)
    (he : ((tabbed forward)^[k + 1] d).focused = ((tabbed forward)^[l + 1] d).focused) :
    k = l := by
  obtain ⟨j, hj, hval⟩ := h.iterate forward (k + 1)
  obtain ⟨j', hj', hval'⟩ := h.iterate forward (l + 1)
  have hform : ∀ m, ((tabbed forward)^[m] d).form = d.form := fun m => by
    rw [iterate_tabbed_eq]
  have hindex : j = j' := by
    obtain ⟨hlt, hfocused⟩ := hj
    obtain ⟨hlt', hfocused'⟩ := hj'
    rw [hform] at hlt hlt' hfocused hfocused'
    rw [hfocused, hfocused', List.getElem?_eq_getElem hlt, List.getElem?_eq_getElem hlt',
      Option.some.injEq] at he
    exact d.form.focusRing_nodup.getElem_inj_iff.1 he
  -- Presses that lead to the same input are a whole number of rounds apart.
  have hmod : ((i : Int) + (k + 1 : Nat) * stride forward) % d.form.focusRing.length =
      (i + (l + 1 : Nat) * stride forward) % d.form.focusRing.length := by
    rw [← hval, ← hval', hindex]
  have hdiff : (i : Int) + (l + 1 : Nat) * stride forward - (i + (k + 1 : Nat) * stride forward) =
      (l - k) * stride forward := by
    push_cast
    ring
  have hdvd : (d.form.focusRing.length : Int) ∣ l - k := by
    have hround := hdiff ▸ Int.ModEq.dvd hmod
    cases forward with
    | true => rwa [stride, if_pos rfl, mul_one] at hround
    | false => rwa [stride, if_neg Bool.false_ne_true, mul_neg_one, Int.dvd_neg] at hround
  have hzero : (l : Int) - k = 0 := by
    apply Int.eq_zero_of_abs_lt_dvd hdvd
    rw [abs_lt]
    omega
  omega

/-- In one round every input of the ring gets the focus, and none twice. -/
theorem FocusAt.round (h : d.FocusAt i) (forward : Bool) :
    ((List.range d.form.focusRing.length).map fun k => ((tabbed forward)^[k + 1] d).focused).Perm
      (d.form.focusRing.map some) := by
  have hnodup : ((List.range d.form.focusRing.length).map
      fun k => ((tabbed forward)^[k + 1] d).focused).Nodup := by
    apply List.Nodup.map_on _ List.nodup_range
    intro k hk l hl he
    exact h.iterate_inj forward (List.mem_range.1 hk) (List.mem_range.1 hl) he
  have hsub : ((List.range d.form.focusRing.length).map
      fun k => ((tabbed forward)^[k + 1] d).focused) ⊆ d.form.focusRing.map some := by
    intro p hp
    obtain ⟨k, -, rfl⟩ := List.mem_map.1 hp
    obtain ⟨j, ⟨hj, hfocused⟩, -⟩ := h.iterate forward (k + 1)
    have hform : ((tabbed forward)^[k + 1] d).form = d.form := by rw [iterate_tabbed_eq]
    rw [hform] at hj hfocused
    rw [hfocused, List.getElem?_eq_getElem hj]
    exact List.mem_map_of_mem (List.getElem_mem hj)
  apply (List.subperm_of_subset hnodup hsub).perm_of_length_le
  simp

/-- From outside the ring, or from no focus at all, the key enters the ring at its first input, and
backward at its last. -/
theorem focusAt_tabbed_of_outside (h : d.form.focusRing ≠ [])
    (hout : ∀ p ∈ d.focused, p ∉ d.form.focusRing) :
    (d.tabbed true).FocusAt 0 ∧ (d.tabbed false).FocusAt (d.form.focusRing.length - 1) := by
  have hnone : d.focused.bind (fun p => d.form.focusRing.findIdx? (· == p)) = none := by
    rw [Option.bind_eq_none_iff]
    intro p hp
    rw [List.findIdx?_eq_none_iff]
    exact fun q hq => beq_eq_false_iff_ne.2 fun he => hout p hp (he ▸ hq)
  constructor
  · have hnext := focusAt_tabbed h true
    rw [hnone] at hnext
    exact hnext
  · have hnext := focusAt_tabbed h false
    rw [hnone] at hnext
    exact hnext

end

/-! ### Every dialog -/

/-- Presses move the focus and nothing else. -/
theorem foldl_tabbed_eq (presses : List Bool) (d : Dialog α) : ∃ focused,
    presses.foldl (fun d forward => d.tabbed forward) d = { d with focused } := by
  induction presses generalizing d with
  | nil => exact ⟨d.focused, rfl⟩
  | cons forward presses ih =>
    obtain ⟨focused, hd⟩ := ih (d.tabbed forward)
    refine ⟨focused, ?_⟩
    rw [List.foldl_cons, hd, tabbed_eq]

theorem update_tab [Outcome α] (forward : Bool) (now : Nat) (toasts : Toasts) (d : Dialog α) :
    d.update now (tab forward) toasts = ⟨d.tabbed forward, toasts,
      if d.form.focusRing = [] then [] else d.focusOn (d.tabbed forward).focused, none⟩ := by
  have hmove : d.update now (tab forward) toasts =
      ⟨(d.moveFocus forward).1, toasts, (d.moveFocus forward).2, none⟩ := by
    cases forward <;> rfl
  rw [hmove]
  split
  · next h => rw [tabbed, moveFocus_of_empty h]
  · next h => rw [moveFocus_of_ring h]

/-- The key cycles through the ring. -/
structure TabCycles [Outcome α] (d : Dialog α) : Prop where
  /-- The ring has the text inputs that are shown, in the order of the fields. -/
  members : ∀ p, p ∈ d.form.focusRing ↔
    ∃ f, d.form.fields[p]? = some f ∧ f.visible = true ∧ f.isTextInput = true
  ordered : d.form.focusRing.Pairwise (· < ·)
  /-- At any time a press moves the focus, asks for it to go there, and adds no toast. -/
  press : ∀ forward now toasts, d.update now (tab forward) toasts =
    ⟨d.tabbed forward, toasts,
      if d.form.focusRing = [] then [] else d.focusOn (d.tabbed forward).focused, none⟩
  rest : ∀ presses : List Bool, ∃ focused,
    presses.foldl (fun d forward => d.tabbed forward) d = { d with focused }
  forward : ∀ i k, d.FocusAt i →
    ((tabbed true)^[k] d).FocusAt ((i + k) % d.form.focusRing.length)
  backward : ∀ i k, d.FocusAt i → ∃ j : Nat, ((tabbed false)^[k] d).FocusAt j ∧
    (j : Int) = (i - k) % d.form.focusRing.length
  inverse : ∀ i forward, d.FocusAt i → (d.tabbed forward).tabbed (!forward) = d
  /-- In one round every input gets the focus, none twice, and the dialog is as it was. -/
  round : ∀ i forward, d.FocusAt i →
    ((List.range d.form.focusRing.length).map fun k => ((tabbed forward)^[k + 1] d).focused).Perm
      (d.form.focusRing.map some) ∧
    (tabbed forward)^[d.form.focusRing.length] d = d
  entry : d.form.focusRing ≠ [] → (∀ p ∈ d.focused, p ∉ d.form.focusRing) →
    (d.tabbed true).FocusAt 0 ∧ (d.tabbed false).FocusAt (d.form.focusRing.length - 1)
  empty : d.form.focusRing = [] → ∀ forward, d.tabbed forward = d

/-- In every dialog, open or not, the Tab key cycles through the ring. -/
theorem tab_cycles [Outcome α] (d : Dialog α) : d.TabCycles where
  members _ := d.form.mem_focusRing
  ordered := d.form.focusRing_pairwise
  press forward now toasts := d.update_tab forward now toasts
  rest presses := foldl_tabbed_eq presses d
  forward _ k h := h.iterate_forward k
  backward _ k h := h.iterate_backward k
  inverse _ forward h := h.tabbed_tabbed forward
  round _ forward h := ⟨h.round forward, h.iterate_length forward⟩
  entry h hout := focusAt_tabbed_of_outside h hout
  empty h forward := by rw [tabbed, moveFocus_of_empty h]

/-- The dialog for a new token while a lifetime of one's own is asked for. -/
def ownLifetime : Dialog String :=
  ((Tokens.tokenizeDialog.openWith none).1.update 0
    (.select "ttl_select" ⟨Tokens.customTtl, "Custom"⟩) (.empty 4000)).dialog

/-- The choice between the two inputs is passed over. -/
theorem tab_cycles_ownLifetime :
    ownLifetime.form.focusRing = [0, 2] ∧ ownLifetime.FocusAt 1 ∧
    ((tabbed true)^[3] ownLifetime).FocusAt 0 ∧
    (tabbed false)^[2] ownLifetime = ownLifetime ∧
    ({ ownLifetime with focused := some 1 }.tabbed false).FocusAt 1 := by
  have hring : ownLifetime.form.focusRing = [0, 2] := by decide
  have hfocus : ownLifetime.FocusAt 1 := by
    unfold FocusAt
    decide
  have hoff : ∀ p ∈ some 1, p ∉ ownLifetime.form.focusRing := by decide
  have hnonempty : ownLifetime.form.focusRing ≠ [] := by decide
  refine ⟨hring, hfocus, ?_, ?_, ?_⟩
  · have hforward := (tab_cycles ownLifetime).forward 1 3 hfocus
    rwa [hring] at hforward
  · have hround := ((tab_cycles ownLifetime).round 1 false hfocus).2
    rwa [hring] at hround
  · have hentry := ((tab_cycles { ownLifetime with focused := some 1 }).entry hnonempty hoff).2
    rwa [hring] at hentry

end TokenConsole.Dialog
