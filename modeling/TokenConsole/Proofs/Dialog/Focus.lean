import Mathlib.Data.List.Induction
import TokenConsole.Proofs.Dialog.Gate
import TokenConsole.Proofs.Dialog.Reopening
import TokenConsole.Proofs.Dialog.Tab
import TokenConsole.Proofs.Dialog.View
import TokenConsole.Proofs.Form.Reveal

/-!
# The input that a dialog takes to have the focus

A dialog notes which of its inputs has the focus. What places the focus places it on an input that
is shown. But the choice of a value can hide the input that has the focus, and then the dialog goes
on taking that input to have it, until the focus is placed again.
-/
namespace TokenConsole.Dialog

open TokenConsole.Accounts (signInDialog signUpDialog User)
open TokenConsole.Tokens (customTtl detokenizeDialog tokenizeDialog)

variable {α : Type}

/-! ### What a dialog offers -/

/-- What the drawn dialog, the keys and the clock can send, and the reports of submissions. -/
def Offers (d : Dialog α) (m : Message α) : Prop :=
  (d.drawOver id (.group [])).Sends m ∨ (∃ e, d.onKey e = some m) ∨ m.isReport = true ∨
    ∃ now, m = .tick now

/-- A message that is offered comes of a dialog that is open, unless it is a report or a tick. -/
theorem offers_cases {d : Dialog α} {m : Message α} (h : d.Offers m) :
    d.isOpen = true ∧ (m.IsDrawn d ∨ ∃ forward, m = tab forward) ∨ m.isReport = true ∨
      ∃ now, m = .tick now := by
  rcases h with hview | ⟨e, he⟩ | hother
  · rcases d.sends_drawOver id hview with ⟨ho, x, hx, rfl⟩ | ⟨-, hbase⟩ | ⟨i, hi, -⟩
    · exact .inl ⟨ho, .inl hx⟩
    · simp at hbase
    · cases hi
  · unfold onKey at he
    split at he
    · cases he
    · next hlistens =>
      have ho : d.isOpen = true := by
        simp only [listensToKeys, Bool.or_eq_true, Bool.not_eq_true', not_or,
          Bool.not_eq_false] at hlistens
        exact hlistens.1
      split at he
      · cases he
        exact .inl ⟨ho, .inl trivial⟩
      · cases he
        refine .inl ⟨ho, .inr ⟨!e.shift, ?_⟩⟩
        cases e.shift <;> rfl
      · cases he
  · exact .inr hother

theorem drawn_of_offers {d : Dialog α} {m : Message α} (h : d.Offers m)
    (hm : m.entry?.isSome = true) : d.isOpen = true ∧ m.IsDrawn d := by
  rcases offers_cases h with ⟨ho, hdrawn | ⟨forward, rfl⟩⟩ | hreport | ⟨now, rfl⟩
  · exact ⟨ho, hdrawn⟩
  · cases forward <;> cases hm
  · cases m with
    | submitted result => cases hm
    | _ => cases hreport
  · cases hm

theorem isOpen_of_offers_tab {d : Dialog α} (forward : Bool) (h : d.Offers (tab forward)) :
    d.isOpen = true := by
  rcases offers_cases h with ⟨ho, -⟩ | hreport | ⟨now, htick⟩
  · exact ho
  · cases forward <;> cases hreport
  · cases forward <;> cases htick

namespace Act

def IsOffered (d : Dialog α) : Act α → Prop
  | .opened _ | .closed => True
  | .message _ m _ => d.Offers m

end Act

/-- Each message of the history is offered when it comes. -/
def Offered [Outcome α] (d : Dialog α) (h : List (Act α)) : Prop :=
  Throughout (fun d a => a.IsOffered d) d h

/-! ### Where the focus is -/

/-- The input that the dialog takes to have the focus is shown, and the dialog is open. -/
def SeesFocus (d : Dialog α) : Prop := ∀ p ∈ d.focused, d.isOpen = true ∧ p ∈ d.form.focusRing

instance (d : Dialog α) : Decidable d.SeesFocus :=
  inferInstanceAs (Decidable (∀ p ∈ d.focused, _))

/-- The dialog is open, and the input is one that is shown at times. -/
def TracksFocus (d : Dialog α) : Prop :=
  ∀ p ∈ d.focused, d.isOpen = true ∧ p ∈ d.form.lasting.focusRing

instance (d : Dialog α) : Decidable d.TracksFocus :=
  inferInstanceAs (Decidable (∀ p ∈ d.focused, _))

/-- The message puts the focus on an input of the dialog, or on none. -/
def Message.PlacesFocus (d : Dialog α) : Message α → Prop
  | .input .. | .close => True
  | .focusNext | .focusPrevious => d.form.focusRing ≠ []
  | .select name choice => ∃ p, d.form.Awaits name choice.value p
  | .submit => d.isOpen = true ∧ d.isSubmitting = false ∧ ¬d.form.Filled
  | .submitted _ | .tick _ => False

/-- The message hides the input at a position: it chooses another value than that input asks for. -/
def Message.Hides (d : Dialog α) (p : Nat) : Message α → Prop
  | .select name choice => d.form.Hides name choice.value p
  | _ => False

namespace Act

def PlacesFocus (d : Dialog α) : Act α → Prop
  | .opened _ | .closed => True
  | .message _ m _ => m.PlacesFocus d

def Hides (d : Dialog α) (p : Nat) : Act α → Prop
  | .opened _ | .closed => False
  | .message _ m _ => m.Hides d p

/-- The act hides the input that has the focus and places the focus nowhere else. -/
def LosesFocus (d : Dialog α) (a : Act α) : Prop :=
  (∃ p ∈ d.focused, a.Hides d p) ∧ ¬a.PlacesFocus d

end Act

theorem SeesFocus.tracks {d : Dialog α} (h : d.SeesFocus) : d.TracksFocus := fun p hp =>
  ⟨(h p hp).1, d.form.focusRing_subset_lasting (h p hp).2⟩

theorem seesFocus_of_some {d : Dialog α} {p : Nat} (hf : d.focused = some p)
    (ho : d.isOpen = true) (hp : p ∈ d.form.focusRing) : d.SeesFocus := by
  intro q hq
  rw [hf] at hq
  cases hq
  exact ⟨ho, hp⟩

theorem seesFocus_openWith (restore : Option Input) (d : Dialog α) :
    (d.openWith restore).1.SeesFocus :=
  fun _ hp => ⟨rfl, List.mem_of_mem_head? hp⟩

theorem seesFocus_close (d : Dialog α) : d.close.1.SeesFocus := fun _ hp => nomatch hp

/-- The key leads to an input of the ring. -/
theorem seesFocus_tabbed {d : Dialog α} (ho : d.isOpen = true) (h : d.form.focusRing ≠ [])
    (forward : Bool) : (d.tabbed forward).SeesFocus := by
  obtain ⟨hlt, hfocused⟩ := focusAt_tabbed h forward
  have hopen : (d.tabbed forward).isOpen = true := by rw [tabbed_eq, ho]
  rw [List.getElem?_eq_getElem hlt] at hfocused
  exact seesFocus_of_some hfocused hopen (List.getElem_mem hlt)

/-! ### What a message does to the focus -/

/-- The focus stays where it is, and the inputs that are shown stay, but for hidden ones. -/
structure KeepsFocus (d d' : Dialog α) (hidden : Nat → Prop) : Prop where
  focused : d'.focused = d.focused
  isOpen : d'.isOpen = d.isOpen
  ring : ∀ p, p ∈ d'.form.focusRing ↔ p ∈ d.form.focusRing ∧ ¬hidden p

/-- Where no input is hidden, nothing changes for the focus. -/
theorem KeepsFocus.refl {d d' : Dialog α} (hf : d'.focused = d.focused)
    (ho : d'.isOpen = d.isOpen) (hform : d'.form = d.form) : KeepsFocus d d' fun _ => False :=
  ⟨hf, ho, fun p => by rw [hform, not_false_eq_true, and_true]⟩

/-- The focus is seen afterwards if it was, and its input is none of the hidden ones. -/
theorem KeepsFocus.seesFocus_iff {d d' : Dialog α} {hidden : Nat → Prop}
    (h : KeepsFocus d d' hidden) :
    d'.SeesFocus ↔ d.SeesFocus ∧ ¬∃ p ∈ d.focused, hidden p := by
  unfold SeesFocus
  rw [h.focused, h.isOpen]
  simp only [h.ring]
  constructor
  · intro hsees
    exact ⟨fun p hp => ⟨(hsees p hp).1, (hsees p hp).2.1⟩,
      fun ⟨p, hp, hhidden⟩ => (hsees p hp).2.2 hhidden⟩
  · intro ⟨hsees, hkept⟩ p hp
    exact ⟨(hsees p hp).1, (hsees p hp).2, fun hhidden => hkept ⟨p, hp, hhidden⟩⟩

section

variable {d : Dialog α} (hr : d.form.Regular)
include hr

/-- What a refused submission gives the focus to is shown. -/
theorem submit_focus_cases (now : Nat) :
    (d.isOpen = true ∧ d.isSubmitting = false ∧ ¬d.form.Filled) ∧ (d.submit now).1.SeesFocus ∨
      ¬(d.isOpen = true ∧ d.isSubmitting = false ∧ ¬d.form.Filled) ∧
        KeepsFocus d (d.submit now).1 fun _ => False := by
  by_cases hblocked : d.isOpen = true → d.isSubmitting = true
  · rw [submit_of_blocked hblocked]
    refine .inr ⟨?_, .refl rfl rfl rfl⟩
    intro ⟨ho, hs, _⟩
    rw [hblocked ho] at hs
    cases hs
  · obtain ⟨ho, hs⟩ := Classical.not_imp.1 hblocked
    have hs : d.isSubmitting = false := Bool.eq_false_iff.2 hs
    by_cases hfilled : d.form.Filled
    · rw [submit_of_accepts ((accepts_iff hr.distinct).2 ⟨ho, hs, hfilled⟩)]
      exact .inr ⟨fun h => h.2.2 hfilled, .refl rfl rfl rfl⟩
    · refine .inl ⟨⟨ho, hs, hfilled⟩, ?_⟩
      simp only [Form.Filled, not_forall, not_not] at hfilled
      obtain ⟨f, hmem, hname, hblank⟩ := hfilled
      obtain ⟨p, hp⟩ := List.getElem?_of_mem hmem
      obtain ⟨htext, hvisible, -⟩ := hr.required f hmem hname
      rw [submit_of_blank hr.distinct ho hs hp hname hblank]
      refine seesFocus_of_some (p := p) rfl ho ((Form.mem_focusRing _).2 ?_)
      refine ⟨{ f with valid := false }, ?_, hvisible, htext⟩
      obtain ⟨hlt, -⟩ := List.getElem?_eq_some_iff.1 hp
      exact List.getElem?_set_self hlt

variable (ht : d.form.Tidy) [Outcome α] (now : Nat) (toasts : Toasts)
include ht

/-- What is typed in a field leaves it on the screen. -/
theorem seesFocus_input (ho : d.isOpen = true) {name : String} (value : String)
    (hdrawn : (Message.input name value).IsDrawn d) :
    (d.update now (.input name value) toasts).dialog.SeesFocus := by
  obtain ⟨f, hmem, rfl, hvisible, htext⟩ := hdrawn
  obtain ⟨p, hp⟩ := List.getElem?_of_mem hmem
  have hfocused : (d.update now (.input f.name value) toasts).dialog.focused = some p :=
    Form.position?_of_getElem? hr.distinct hp
  apply seesFocus_of_some hfocused ho
  apply (Form.mem_focusRing_set_iff hr.distinct ht value
    (Form.field?_of_mem hr.distinct hmem)).2
  refine ⟨f, hp, htext, .inr ⟨hvisible, fun expected hs => ?_⟩⟩
  -- No field of a flat form depends on itself.
  have hnone : f.shownWhen = none := hr.flat f hmem (f.name, expected) hs f hmem rfl
  rw [hnone] at hs
  cases hs

/-- A choice gives the focus to the field that it brings up. If it brings up none, it hides the
fields that ask for another value. -/
theorem select_focus_cases (ho : d.isOpen = true) {name : String} {choice : Choice}
    (hdrawn : (Message.select name choice).IsDrawn d) :
    (∃ p, d.form.Awaits name choice.value p) ∧
        (d.update now (.select name choice) toasts).dialog.SeesFocus ∨
      (¬∃ p, d.form.Awaits name choice.value p) ∧
        KeepsFocus d (d.update now (.select name choice) toasts).dialog fun p =>
          (Message.select name choice).Hides d p := by
  obtain ⟨g, hg, rfl, -⟩ := hdrawn
  have hfield : d.form.field? g.name = some g := Form.field?_of_mem hr.distinct hg
  rcases Form.set_revealed_cases hr.distinct ht choice.value hfield with
    ⟨p, hset, hawaits⟩ | ⟨hset, hnone⟩
  · refine .inl ⟨⟨p, hawaits⟩, ?_⟩
    obtain ⟨f, hp, -, hs⟩ := hawaits
    have htext : f.isTextInput = true :=
      hr.textual f (List.mem_of_getElem? hp) (by rw [hs]; rfl)
    simp only [update, hset]
    refine seesFocus_of_some (p := p) rfl ho ?_
    apply (Form.mem_focusRing_set_iff hr.distinct ht choice.value hfield).2
    exact ⟨f, hp, htext, .inl hs⟩
  · refine .inr ⟨not_exists.2 hnone, ?_⟩
    simp only [update, hset]
    refine ⟨rfl, rfl, fun p => ?_⟩
    exact Form.mem_focusRing_set_of_not_awaits hr.distinct ht choice.value hfield hnone

omit hr ht in
theorem tab_focus_cases (ho : d.isOpen = true) (forward : Bool) :
    d.form.focusRing ≠ [] ∧ (d.update now (tab forward) toasts).dialog.SeesFocus ∨
      ¬d.form.focusRing ≠ [] ∧
        KeepsFocus d (d.update now (tab forward) toasts).dialog fun _ => False := by
  rw [update_tab]
  by_cases hring : d.form.focusRing = []
  · refine .inr ⟨not_not.2 hring, ?_⟩
    show KeepsFocus d (d.tabbed forward) _
    rw [tabbed, moveFocus_of_empty hring]
    exact .refl rfl rfl rfl
  · exact .inl ⟨hring, seesFocus_tabbed ho hring forward⟩

/-- Whatever is offered places the focus on an input that is shown, or leaves it where it is. -/
theorem update_focus_cases {m : Message α} (hm : d.Offers m) :
    m.PlacesFocus d ∧ (d.update now m toasts).dialog.SeesFocus ∨
      ¬m.PlacesFocus d ∧ KeepsFocus d (d.update now m toasts).dialog (m.Hides d ·) := by
  cases m with
  | input name value =>
    obtain ⟨ho, hdrawn⟩ := drawn_of_offers hm rfl
    exact .inl ⟨trivial, seesFocus_input hr ht now toasts ho value hdrawn⟩
  | select name choice =>
    obtain ⟨ho, hdrawn⟩ := drawn_of_offers hm rfl
    exact select_focus_cases hr ht now toasts ho hdrawn
  | submit => exact submit_focus_cases hr now
  | submitted result => exact .inr ⟨id, .refl rfl rfl rfl⟩
  | close => exact .inl ⟨trivial, d.seesFocus_close⟩
  | focusNext => exact tab_focus_cases now toasts (isOpen_of_offers_tab true hm) true
  | focusPrevious => exact tab_focus_cases now toasts (isOpen_of_offers_tab false hm) false
  | tick t =>
    refine .inr ⟨id, ?_⟩
    simp only [update]
    split
    · split <;> exact .refl rfl rfl rfl
    · exact .refl rfl rfl rfl

end

/-! ### Histories -/

/-- Fields come and go as they are declared to, and the focus is on none but those. -/
structure Sound (d : Dialog α) : Prop where
  regular : d.form.Regular
  tidy : d.form.Tidy
  tracked : d.TracksFocus

instance (d : Dialog α) : Decidable d.Sound :=
  decidable_of_iff (d.form.Regular ∧ d.form.Tidy ∧ d.TracksFocus)
    ⟨fun ⟨hr, ht, hf⟩ => ⟨hr, ht, hf⟩, fun h => ⟨h.regular, h.tidy, h.tracked⟩⟩

section

variable [Outcome α] {d : Dialog α} {a : Act α} {h : List (Act α)}

/-- No act of the history places the focus. -/
def LeavesFocus (d : Dialog α) (h : List (Act α)) : Prop :=
  Throughout (fun d a => ¬a.PlacesFocus d) d h

theorem onDialog_focus_cases (hs : d.Sound) (ha : a.IsOffered d) :
    a.PlacesFocus d ∧ (a.onDialog d).1.SeesFocus ∨
      ¬a.PlacesFocus d ∧ KeepsFocus d (a.onDialog d).1 (a.Hides d ·) := by
  cases a with
  | opened restore => exact .inl ⟨trivial, seesFocus_openWith restore d⟩
  | closed => exact .inl ⟨trivial, seesFocus_close d⟩
  | message now m toasts => exact update_focus_cases hs.regular hs.tidy now toasts ha

/-- The focus is out of sight if the act loses it, or if it was out of sight and is not placed. -/
theorem not_seesFocus_onDialog_iff (hs : d.Sound) (ha : a.IsOffered d) :
    ¬(a.onDialog d).1.SeesFocus ↔ a.LosesFocus d ∨ ¬a.PlacesFocus d ∧ ¬d.SeesFocus := by
  unfold Act.LosesFocus
  rcases onDialog_focus_cases hs ha with ⟨hplaces, hsees⟩ | ⟨hplaces, hkeeps⟩
  · simp [hplaces, hsees]
  · rw [hkeeps.seesFocus_iff, not_and_or, not_not]
    simp only [hplaces, not_false_eq_true, and_true, true_and]
    exact or_comm

/-- Nothing that is done to a tidy dialog marks a hidden field, so it stays tidy. -/
theorem tidy_onDialog (hr : d.form.Regular) (ht : d.form.Tidy) (a : Act α) :
    (a.onDialog d).1.form.Tidy := by
  have hedit : ∀ edit : Form.Edit, edit.Spares d.form → (edit.apply d.form).Tidy := by
    intro edit hspares
    exact (Form.tidy_apply_iff hr.distinct edit).2 (Form.tidies_of_flat hr.flat ht hspares)
  cases a with
  | opened restore => exact hedit .reset trivial
  | closed => exact ht
  | message now m toasts =>
    show (d.update now m toasts).dialog.form.Tidy
    cases hm : m.entry? with
    | some e =>
      rw [d.update_form_of_entry now toasts hm]
      exact hedit (.set e.1 e.2) trivial
    | none =>
      rcases d.update_form_cases now toasts hm with he | he
      · rw [he]
        exact ht
      · rw [he]
        apply hedit (.invalidate d.form.required)
        intro f hf hs
        obtain ⟨hmem, hname⟩ := Form.field?_eq_some hf
        exact (hr.required f hmem hname).2.1

theorem sound_onDialog (hs : d.Sound) (ha : a.IsOffered d) : (a.onDialog d).1.Sound where
  regular := Form.regular_of_lasting (d.onDialog_lasting a) hs.regular
  tidy := tidy_onDialog hs.regular hs.tidy a
  tracked := by
    rcases onDialog_focus_cases hs ha with ⟨-, hsees⟩ | ⟨-, hkeeps⟩
    · exact hsees.tracks
    · unfold TracksFocus
      rw [hkeeps.focused, hkeeps.isOpen, onDialog_lasting]
      exact hs.tracked

theorem sound_after (hs : d.Sound) (ho : d.Offered h) : (d.after h).Sound := by
  induction h generalizing d with
  | nil => exact hs
  | cons a h ih => exact ih (sound_onDialog hs ho.1) ho.2

/-- The focus is out of sight exactly if an act has lost it and no later one has placed it. -/
theorem not_seesFocus_after_iff (hs : d.Sound) (hsees : d.SeesFocus) (ho : d.Offered h) :
    ¬(d.after h).SeesFocus ↔ ∃ before a later, h = before ++ a :: later ∧
      a.LosesFocus (d.after before) ∧ (d.after (before ++ [a])).LeavesFocus later := by
  induction h using List.reverseRecOn with
  | nil =>
    refine iff_of_false (not_not.2 hsees) fun ⟨before, a, later, hh, _⟩ => ?_
    cases before <;> cases hh
  | append_singleton h b ih =>
    -- The act that lost the focus is the last one, or it came before and the last one leaves it.
    obtain ⟨hoh, hob, -⟩ := (throughout_append _).1 ho
    have hstep : (d.after (h ++ [b])) = (b.onDialog (d.after h)).1 := after_append d h [b]
    rw [hstep, not_seesFocus_onDialog_iff (sound_after hs hoh) hob, ih hoh]
    constructor
    · intro hor
      rcases hor with hloses | ⟨hleaves, before, a, later, rfl, hloses, hlater⟩
      · exact ⟨h, b, [], rfl, hloses, trivial⟩
      · refine ⟨before, a, later ++ [b], by simp, hloses, ?_⟩
        refine (throughout_append _).2 ⟨hlater, ?_, trivial⟩
        rwa [← after_append, List.append_assoc, List.singleton_append]
    · intro ⟨before, a, later, hh, hloses, hlater⟩
      rcases List.eq_nil_or_concat later with rfl | ⟨later, c, rfl⟩
      · obtain ⟨rfl, hb⟩ := List.append_inj' hh rfl
        cases hb
        exact .inl hloses
      · rw [List.concat_eq_append, ← List.cons_append, ← List.append_assoc] at hh
        obtain ⟨rfl, hb⟩ := List.append_inj' hh rfl
        cases hb
        rw [List.concat_eq_append] at hlater
        obtain ⟨hlater, hleaves, -⟩ := (throughout_append _).1 hlater
        refine .inr ⟨?_, before, a, later, rfl, hloses, hlater⟩
        rwa [← after_append, List.append_assoc, List.singleton_append] at hleaves

/-! ### Which inputs can be lost -/

omit [Outcome α] in
/-- Only a choice hides an input, and only one that depends on the field of the choice. -/
theorem condition_of_hides {p : Nat} (ha : a.Hides d p) : ∃ now name choice toasts f expected,
    a = .message now (.select name choice) toasts ∧ d.form.fields[p]? = some f ∧
      f.shownWhen = some (name, expected) ∧ expected ≠ choice.value := by
  cases a with
  | message now m toasts =>
    cases m with
    | select name choice =>
      obtain ⟨f, hp, expected, hs, hne⟩ := ha
      exact ⟨now, name, choice, toasts, f, expected, rfl, hp, hs, hne⟩
    | _ => cases ha
  | _ => cases ha

/-- A dialog without fields that come and go never loses the focus. -/
theorem seesFocus_after_of_steady (hs : d.Sound) (hsees : d.SeesFocus)
    (hsteady : ∀ f ∈ d.form.fields, f.shownWhen = none) (ho : d.Offered h) :
    (d.after h).SeesFocus := by
  by_contra hlost
  obtain ⟨before, a, later, -, ⟨⟨p, -, hhides⟩, -⟩, -⟩ :=
    (not_seesFocus_after_iff hs hsees ho).1 hlost
  obtain ⟨-, name, -, -, f, expected, -, hp, hcondition, -⟩ := condition_of_hides hhides
  obtain ⟨f', hp', he⟩ := Form.getElem?_of_lasting (d.after_lasting before) hp
  have hnone : f.shownWhen = none :=
    (congrArg (·.shownWhen) he).symm.trans (hsteady f' (List.mem_of_getElem? hp'))
  rw [hnone] at hcondition
  cases hcondition

end

/-! ### The dialog for a new token -/

section

variable {form : Form} (hl : form.lasting = tokenizeDialog.form.lasting) {p : Nat} {f : Field}
include hl

/-- One field comes and goes. -/
theorem condition_of_lasting (hp : form.fields[p]? = some f) {c : String × String}
    (hc : f.shownWhen = some c) :
    tokenizeDialog.form.position? "ttl_custom" = some p ∧ c = ("ttl_select", customTtl) := by
  obtain ⟨f', hp', he⟩ := Form.getElem?_of_lasting hl hp
  have hc' : f'.shownWhen = some c := (congrArg (·.shownWhen) he).trans hc
  match p, hp' with
  | 0, hp' => cases hp'; cases hc'
  | 1, hp' => cases hp'; cases hc'
  | 2, hp' => cases hp'; cases hc'; exact ⟨by decide, rfl⟩

theorem exists_custom : ∃ p f, tokenizeDialog.form.position? "ttl_custom" = some p ∧
    form.fields[p]? = some f ∧ f.shownWhen = some ("ttl_select", customTtl) := by
  obtain ⟨f, hf, he⟩ := Form.getElem?_of_lasting (p := 2) hl.symm rfl
  exact ⟨2, f, by decide, hf, congrArg (·.shownWhen) he⟩

end

/-- The dialog loses the focus if the field for the seconds has it and the choice is changed. -/
theorem losesFocus_iff {d : Dialog String} (hl : d.form.lasting = tokenizeDialog.form.lasting)
    {a : Act String} : a.LosesFocus d ↔ ∃ now c toasts,
      a = .message now (.select "ttl_select" c) toasts ∧ c.value ≠ customTtl ∧
        d.focused = tokenizeDialog.form.position? "ttl_custom" := by
  constructor
  · intro ⟨⟨p, hp, hhides⟩, _⟩
    obtain ⟨now, name, c, toasts, f, expected, rfl, hf, hs, hne⟩ := condition_of_hides hhides
    obtain ⟨hposition, hc⟩ := condition_of_lasting hl hf hs
    cases hc
    exact ⟨now, c, toasts, rfl, Ne.symm hne, hp.trans hposition.symm⟩
  · rintro ⟨now, c, toasts, rfl, hne, hfocused⟩
    obtain ⟨p, f, hposition, hf, hs⟩ := exists_custom hl
    refine ⟨⟨p, hfocused.trans hposition, f, hf, customTtl, hs, hne.symm⟩, ?_⟩
    intro ⟨q, g, hg, _, hasks⟩
    obtain ⟨-, hc⟩ := condition_of_lasting hl hg hasks
    exact hne (congrArg Prod.snd hc)

theorem sound_tokenizeDialog : tokenizeDialog.Sound := by
  decide

/-- The focus is on an input of the open dialog, be it the field for the seconds while that is
hidden. -/
theorem focused_after {h : List (Act String)} (ho : tokenizeDialog.Offered h) :
    ∀ p ∈ (tokenizeDialog.after h).focused, (tokenizeDialog.after h).isOpen = true ∧
      (p ∈ (tokenizeDialog.after h).form.focusRing ∨
        tokenizeDialog.form.position? "ttl_custom" = some p) := by
  intro p hp
  obtain ⟨hopen, hring⟩ := (sound_after sound_tokenizeDialog ho).tracked p hp
  obtain ⟨f, hf, hshown, htext⟩ := Form.mem_focusRing_lasting.1 hring
  rcases hshown with hvisible | hcondition
  · exact ⟨hopen, .inl ((Form.mem_focusRing _).2 ⟨f, hf, hvisible, htext⟩)⟩
  · obtain ⟨c, hc⟩ := Option.isSome_iff_exists.1 hcondition
    exact ⟨hopen, .inr (condition_of_lasting (tokenizeDialog.after_lasting h) hf hc).1⟩

/-! ### All dialogs -/

/-- In the dialogs without fields that come and go, the focus is on an input that is shown whenever
it is on one, and on none while they are closed. In the dialog for a new token it can be on the
field for the seconds while that is hidden: exactly if that field had the focus when the choice was
changed to another one, and nothing has placed the focus since. -/
theorem focus_out_of_sight_iff (s : List (Act User)) (h : List (Act String)) :
    (signInDialog.Offered s → (signInDialog.after s).SeesFocus) ∧
    (signUpDialog.Offered h → (signUpDialog.after h).SeesFocus) ∧
    (detokenizeDialog.Offered h → (detokenizeDialog.after h).SeesFocus) ∧
    (tokenizeDialog.Offered h →
      (∀ p ∈ (tokenizeDialog.after h).focused, (tokenizeDialog.after h).isOpen = true ∧
        (p ∈ (tokenizeDialog.after h).form.focusRing ∨
          tokenizeDialog.form.position? "ttl_custom" = some p)) ∧
      (¬(tokenizeDialog.after h).SeesFocus ↔ ∃ before now c toasts later,
        h = before ++ .message now (.select "ttl_select" c) toasts :: later ∧
          c.value ≠ customTtl ∧
          (tokenizeDialog.after before).focused =
            tokenizeDialog.form.position? "ttl_custom" ∧
          (tokenizeDialog.after
            (before ++ [.message now (.select "ttl_select" c) toasts])).LeavesFocus later)) := by
  refine ⟨fun ho => ?_, fun ho => ?_, fun ho => ?_, fun ho => ⟨focused_after ho, ?_⟩⟩
  · exact seesFocus_after_of_steady (by decide) (by decide) (by decide) ho
  · exact seesFocus_after_of_steady (by decide) (by decide) (by decide) ho
  · exact seesFocus_after_of_steady (by decide) (by decide) (by decide) ho
  · rw [not_seesFocus_after_iff sound_tokenizeDialog (by decide) ho]
    constructor
    · intro ⟨before, a, later, hh, hloses, hlater⟩
      obtain ⟨now, c, toasts, rfl, hne, hfocused⟩ :=
        (losesFocus_iff (tokenizeDialog.after_lasting before)).1 hloses
      exact ⟨before, now, c, toasts, later, hh, hne, hfocused, hlater⟩
    · intro ⟨before, now, c, toasts, later, hh, hne, hfocused, hlater⟩
      have hloses := (losesFocus_iff (tokenizeDialog.after_lasting before)).2
        ⟨now, c, toasts, rfl, hne, hfocused⟩
      exact ⟨before, _, later, hh, hloses, hlater⟩

/-- The login is typed in, and Tab is pressed. -/
def signingIn : List (Act User) :=
  [.opened none, .message 0 (.input "login" "root") (.empty 4000),
    .message 0 .focusNext (.empty 4000)]

/-- A lifetime of one's own is chosen, which gives the focus to the field for it, and then another
one. -/
def rechoosing : List (Act String) :=
  [.opened none, .message 0 (.select "ttl_select" ⟨customTtl, "Custom"⟩) (.empty 4000),
    .message 0 (.select "ttl_select" ⟨"300", "5 minutes"⟩) (.empty 4000)]

theorem offered_rechoosing : tokenizeDialog.Offered rechoosing :=
  ⟨trivial, .inl (.inl (List.mem_of_getElem? (i := 6) rfl)),
    .inl (.inl (List.mem_of_getElem? (i := 3) rfl)), trivial⟩

theorem focus_of_rechoosing :
    signInDialog.Offered signingIn ∧
    (signInDialog.after signingIn).focused = some 1 ∧
    (signInDialog.after signingIn).SeesFocus ∧
    tokenizeDialog.Offered rechoosing ∧
    (tokenizeDialog.after rechoosing).isOpen = true ∧
    ¬(tokenizeDialog.after rechoosing).SeesFocus := by
  obtain ⟨hsignIn, -, -, htokenize⟩ := focus_out_of_sight_iff signingIn rechoosing
  have hoffered : signInDialog.Offered signingIn :=
    ⟨trivial, .inl (.inr ⟨_, List.mem_of_getElem? (i := 0) rfl, .inl ⟨"root", rfl⟩⟩),
      .inr (.inl ⟨⟨.tab, false, false⟩, rfl⟩), trivial⟩
  obtain ⟨-, hlost⟩ := htokenize offered_rechoosing
  refine ⟨hoffered, by decide, hsignIn hoffered, offered_rechoosing, by decide, ?_⟩
  exact hlost.2 ⟨rechoosing.take 2, _, _, _, [], rfl, by decide, by decide, trivial⟩

/-- After the choice was changed the dialog takes the hidden field to have the focus. -/
theorem choice_hides_focus : ¬∀ h, tokenizeDialog.Offered h →
    (tokenizeDialog.after h).SeesFocus := by
  intro hsees
  have hlost : ¬(tokenizeDialog.after rechoosing).SeesFocus := by decide
  exact hlost (hsees rechoosing offered_rechoosing)

end TokenConsole.Dialog
