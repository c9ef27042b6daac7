import Mathlib.Data.List.Nodup
import TokenConsole.Toast

/-!
# What becomes of toasts

The toasts on the screen, read off all that was done before. They are those that were shown, in the
order in which they were shown, less those that a later message took away. Each one is numbered when
it is shown and no number comes twice, so a message that comes late finds nothing to remove.
-/
namespace TokenConsole.Toasts

/-- What is done to the toasts: one is shown, for as long as usual or for a time of its own, or a
message arrives. -/
inductive Act where
  | shown (now : Nat) (tone : Tone) (text : String)
  | shownFor (now : Nat) (tone : Tone) (text : String) (timeout : Nat)
  | message (m : Message)

/-- The message takes the toast away. -/
def Message.removes (t : Toast) : Message → Bool
  | .dismiss id => t.id == id
  | .tick now => t.expiresAt ≤ now

namespace Act

def onToasts : Act → Toasts → Toasts
  | .shown now tone text, ts => ts.add now tone text
  | .shownFor now tone text timeout, ts => ts.showFor now tone text timeout
  | .message m, ts => ts.update m

/-- The toast that is shown, if it gets this number. -/
def toast? (timeout id : Nat) : Act → Option Toast
  | .shown now tone text => some ⟨id, tone, text, now + timeout⟩
  | .shownFor now tone text timeout => some ⟨id, tone, text, now + timeout⟩
  | .message _ => none

def removes (t : Toast) : Act → Bool
  | .message m => m.removes t
  | .shown .. | .shownFor .. => false

end Act

def after (ts : Toasts) (acts : List Act) : Toasts := acts.foldl (fun ts a => a.onToasts ts) ts

/-- All toasts that a history shows, numbered from `id` on, each with what is done after it. -/
def created (timeout : Nat) : Nat → List Act → List (Toast × List Act)
  | _, [] => []
  | id, a :: rest =>
    match a.toast? timeout id with
    | some t => (t, rest) :: created timeout (id + 1) rest
    | none => created timeout id rest

/-- The toasts of a history that nothing after them takes away. -/
def standing (timeout id : Nat) (acts : List Act) : List Toast :=
  ((created timeout id acts).filter fun c => c.2.all fun a => !a.removes c.1).map Prod.fst

/-! ### One message -/

section

variable (ts : Toasts) (m m' : Message)

/-- A message changes nothing but the list, and takes away what it removes. -/
theorem update_eq : ts.update m = { ts with items := ts.items.filter fun t => !m.removes t } := by
  cases m with
  | dismiss id => rfl
  | tick now =>
    have hstays : ∀ t : Toast, decide (now < t.expiresAt) = !decide (t.expiresAt ≤ now) := by
      intro t
      rw [← decide_not, decide_eq_decide]
      omega
    simp only [update, expire, Message.removes, hstays]

/-- Messages can change places. -/
theorem update_comm : (ts.update m).update m' = (ts.update m').update m := by
  simp only [update_eq, List.filter_filter]
  simp only [Bool.and_comm]

theorem expire_expire (a b : Nat) : (ts.expire a).expire b = ts.expire (max a b) := by
  simp only [expire, List.filter_filter, Toasts.mk.injEq, true_and]
  refine List.filter_congr fun t _ => ?_
  rw [← Bool.decide_and, decide_eq_decide]
  omega

theorem removedBy_eq : ts.removedBy m = (ts.items.filter m.removes).length := by
  have hsplit := List.length_eq_length_filter_add (l := ts.items) m.removes
  simp only [removedBy, update_eq]
  omega

/-- A dismissal says that it has removed something exactly if it has. -/
theorem has_iff (id : Nat) : ts.has id = true ↔ ts.removedBy (.dismiss id) ≠ 0 := by
  rw [removedBy_eq, Ne, List.length_eq_zero_iff, List.filter_eq_nil_iff]
  simp [has, Message.removes]

theorem has_eq_false_iff (id : Nat) : ts.has id = false ↔ ∀ t ∈ ts.items, t.id ≠ id := by
  simp [has]

variable {ts}

theorem dismiss_of_not_has {id : Nat} (h : ts.has id = false) : ts.dismiss id = ts := by
  have hkept : ts.items.filter (fun t => t.id != id) = ts.items := by
    apply List.filter_eq_self.2
    intro t ht
    simpa using (ts.has_eq_false_iff id).1 h t ht
  rw [dismiss, hkept]

/-- If no two toasts have the same number, a dismissal removes one and leaves the others in their
places. -/
theorem dismiss_of_mem (h : (ts.items.map Toast.id).Nodup) {t : Toast} (ht : t ∈ ts.items) :
    ∃ before later, ts.items = before ++ t :: later ∧
      ts.dismiss t.id = { ts with items := before ++ later } := by
  obtain ⟨before, later, hitems⟩ := List.append_of_mem ht
  rw [hitems, List.map_append, List.map_cons, List.nodup_middle, List.nodup_cons,
    ← List.map_append] at h
  have hothers : (before ++ later).filter (fun u => u.id != t.id) = before ++ later := by
    apply List.filter_eq_self.2
    intro u hu
    have hne : u.id ≠ t.id := fun he => h.1 (he ▸ List.mem_map_of_mem hu)
    simpa using hne
  refine ⟨before, later, hitems, ?_⟩
  rw [dismiss, hitems, ← hothers]
  simp

end

/-! ### One act -/

theorem created_cons (timeout id : Nat) (a : Act) (acts : List Act) :
    created timeout id (a :: acts) =
      (a.toast? timeout id).toList.map (fun t => (t, acts)) ++
        created timeout (id + (a.toast? timeout id).toList.length) acts := by
  rw [created]
  cases a.toast? timeout id <;> rfl

theorem standing_cons (timeout id : Nat) (a : Act) (acts : List Act) :
    standing timeout id (a :: acts) =
      (a.toast? timeout id).toList.filter (fun t => acts.all fun a => !a.removes t) ++
        standing timeout (id + (a.toast? timeout id).toList.length) acts := by
  simp only [standing, created_cons, List.filter_append, List.filter_map, List.map_append,
    List.map_map]
  congr 1
  exact List.map_id' _

/-- An act takes away what it removes, and adds the toast that it shows under the next number. -/
theorem onToasts_eq (a : Act) (ts : Toasts) : a.onToasts ts =
    { ts with
      nextId := ts.nextId + (a.toast? ts.timeout ts.nextId).toList.length
      items := ts.items.filter (fun t => !a.removes t) ++
        (a.toast? ts.timeout ts.nextId).toList } := by
  cases a with
  | shown now tone text => simp [Act.onToasts, Act.toast?, Act.removes, add, showFor]
  | shownFor now tone text timeout => simp [Act.onToasts, Act.toast?, Act.removes, showFor]
  | message m => simp [Act.onToasts, Act.toast?, Act.removes, update_eq]

/-! ### Every history -/

/-- After a history stand the toasts of before and those shown since, both without those that were
taken away. -/
theorem after_eq (acts : List Act) (ts : Toasts) : ts.after acts =
    { ts with
      nextId := ts.nextId + (created ts.timeout ts.nextId acts).length
      items := ts.items.filter (fun t => acts.all fun a => !a.removes t) ++
        standing ts.timeout ts.nextId acts } := by
  induction acts generalizing ts with
  | nil => simp [after, created, standing]
  | cons a acts ih =>
    have hrest : ts.after (a :: acts) = (a.onToasts ts).after acts := rfl
    rw [hrest, ih, onToasts_eq]
    simp only [created_cons, standing_cons, List.filter_append, List.filter_filter, List.all_cons,
      List.length_append, List.length_map, List.append_assoc, Bool.and_comm, Nat.add_assoc]

theorem ids_created (timeout id : Nat) (acts : List Act) :
    (created timeout id acts).map (·.1.id) =
      List.range' id (created timeout id acts).length := by
  induction acts generalizing id with
  | nil => rfl
  | cons a acts ih =>
    have hid : ∀ t ∈ a.toast? timeout id, t.id = id := by
      cases a <;> simp [Act.toast?]
    rw [created_cons]
    cases ha : a.toast? timeout id with
    | none => simpa using ih id
    | some t =>
      rw [ha] at hid
      simp [hid t rfl, ih (id + 1), List.range'_succ]

theorem standing_sublist (timeout id : Nat) (acts : List Act) :
    (standing timeout id acts).Sublist ((created timeout id acts).map Prod.fst) :=
  List.filter_sublist.map Prod.fst

/-- What stands after a history stood before it or is numbered later than all that was there. -/
theorem mem_after {ts : Toasts} {acts : List Act} {t : Toast} (h : t ∈ (ts.after acts).items) :
    t ∈ ts.items ∨ ts.nextId ≤ t.id := by
  rw [after_eq] at h
  rcases List.mem_append.1 h with hold | hnew
  · exact .inl (List.mem_filter.1 hold).1
  · have hid : t.id ∈ (created ts.timeout ts.nextId acts).map (·.1.id) := by
      have hmem := List.mem_map_of_mem (f := Toast.id) ((standing_sublist _ _ _).subset hnew)
      rwa [List.map_map] at hmem
    rw [ids_created, List.mem_range'_1] at hid
    exact .inr hid.1

section

variable (timeout : Nat) (acts : List Act)

theorem items_after_empty : ((empty timeout).after acts).items = standing timeout 0 acts := by
  rw [after_eq]
  rfl

theorem nextId_after_empty :
    ((empty timeout).after acts).nextId = (created timeout 0 acts).length := by
  rw [after_eq]
  exact Nat.zero_add _

/-- The numbers that were given are those below the next one, each once and in order. -/
theorem ids_created_empty : (created timeout 0 acts).map (·.1.id) =
    List.range ((empty timeout).after acts).nextId := by
  rw [ids_created, nextId_after_empty, List.range_eq_range']

theorem ids_pairwise : (((empty timeout).after acts).items).Pairwise (·.id < ·.id) := by
  have hall : ((created timeout 0 acts).map Prod.fst).Pairwise (·.id < ·.id) := by
    have hrange := List.pairwise_lt_range (n := ((empty timeout).after acts).nextId)
    rw [← ids_created_empty, List.pairwise_map] at hrange
    exact List.pairwise_map.2 hrange
  rw [items_after_empty]
  exact hall.sublist (standing_sublist timeout 0 acts)

variable {timeout acts}

/-- A toast that is gone stays gone, and its number names no other toast. -/
theorem not_has_of_gone {c : Toast × List Act} (hc : c ∈ created timeout 0 acts)
    (hgone : c.1 ∉ ((empty timeout).after acts).items) (later : List Act) :
    (((empty timeout).after acts).after later).has c.1.id = false := by
  have hid : c.1.id ∈ (created timeout 0 acts).map (·.1.id) := List.mem_map_of_mem hc
  rw [has_eq_false_iff]
  intro t ht he
  rcases mem_after ht with hstands | hnew
  · -- Two toasts of one number are the same, and this one is gone.
    have hnodup : ((created timeout 0 acts).map (·.1.id)).Nodup := by
      rw [ids_created]
      exact List.nodup_range'
    rw [items_after_empty] at hstands hgone
    obtain ⟨c', hc', rfl⟩ := List.mem_map.1 ((standing_sublist timeout 0 acts).subset hstands)
    have hsame : c' = c := List.inj_on_of_nodup_map hnodup hc' hc he
    exact hgone (hsame ▸ hstands)
  · rw [ids_created_empty, List.mem_range] at hid
    omega

end

/-- After any history the toasts on the screen are those that were shown and that nothing later took
away, in order. Their numbers are those below the next one, each given once. So the dismissal of a
toast that is gone, however late, says that it removed nothing and leaves all as it is, while that
of a toast on the screen removes this one alone and says so. A tick says how many were due. On any
given toasts, messages can change places, and of two ticks the later one does all. -/
theorem toasts_of_history (timeout : Nat) (acts : List Act) :
    let ts := (empty timeout).after acts
    ts.items = standing timeout 0 acts ∧
    (created timeout 0 acts).map (·.1.id) = List.range ts.nextId ∧
    ts.items.Pairwise (·.id < ·.id) ∧
    (∀ c ∈ created timeout 0 acts, c.1 ∉ ts.items → ∀ later,
      (ts.after later).has c.1.id = false ∧ (ts.after later).dismiss c.1.id = ts.after later) ∧
    (∀ t ∈ ts.items, ts.has t.id = true ∧ ∃ before later, ts.items = before ++ t :: later ∧
      ts.dismiss t.id = { ts with items := before ++ later }) ∧
    (∀ now, ts.removedBy (.tick now) = (ts.items.filter fun t => t.expiresAt ≤ now).length) ∧
    ∀ given : Toasts,
      (∀ id, given.has id = true ↔ given.removedBy (.dismiss id) ≠ 0) ∧
      (∀ m m', (given.update m).update m' = (given.update m').update m) ∧
      ∀ a b, (given.expire a).expire b = given.expire (max a b) := by
  intro ts
  have hsorted : ts.items.Pairwise (·.id < ·.id) := ids_pairwise timeout acts
  refine ⟨items_after_empty timeout acts, ids_created_empty timeout acts, hsorted, ?_, ?_,
    fun now => ts.removedBy_eq (.tick now),
    fun given => ⟨given.has_iff, given.update_comm, given.expire_expire⟩⟩
  · intro c hc hgone later
    have hnot : (ts.after later).has c.1.id = false := not_has_of_gone hc hgone later
    exact ⟨hnot, dismiss_of_not_has hnot⟩
  · intro t ht
    have hnodup : (ts.items.map Toast.id).Nodup :=
      List.pairwise_map.2 (hsorted.imp fun h => Nat.ne_of_lt h)
    have hhas : ts.has t.id = true := List.any_eq_true.2 ⟨t, ht, beq_self_eq_true t.id⟩
    exact ⟨hhas, dismiss_of_mem hnodup ht⟩

/-- The second toast expires before the first one, and a third one is shown after that. -/
def overtaking : List Act :=
  [.shownFor 0 .error "Failed to load" 60000, .shown 10 .success "Token deleted",
    .message (.tick 4010), .shown 5000 .success "Token copied"]

theorem toasts_of_overtaking :
    let ts := (empty 4000).after overtaking
    let second : Toast := ⟨1, .success, "Token deleted", 4010⟩
    let third : Toast := ⟨2, .success, "Token copied", 9000⟩
    (∃ c ∈ created 4000 0 overtaking, c.1 = second) ∧ second ∉ ts.items ∧ third ∈ ts.items ∧
    ts.items = standing 4000 0 overtaking ∧
    (ts.after [.message (.tick 61000)]).dismiss 1 = ts.after [.message (.tick 61000)] ∧
    (∃ before later, ts.items = before ++ third :: later ∧
      ts.dismiss 2 = { ts with items := before ++ later }) ∧
    ts.removedBy (.tick 9000) = 1 := by
  intro ts second third
  obtain ⟨hitems, -, -, hgone, hstands, hcount, -⟩ := toasts_of_history 4000 overtaking
  have hcreated : (second, [.message (.tick 4010), .shown 5000 .success "Token copied"]) ∈
      created 4000 0 overtaking := .tail _ (.head _)
  have hmissing : second ∉ ts.items := by decide
  have hthird : third ∈ ts.items := by decide
  obtain ⟨-, hlate⟩ := hgone _ hcreated hmissing [.message (.tick 61000)]
  exact ⟨⟨_, hcreated, rfl⟩, hmissing, hthird, hitems, hlate, (hstands third hthird).2,
    (hcount 9000).trans (by decide)⟩

end TokenConsole.Toasts
