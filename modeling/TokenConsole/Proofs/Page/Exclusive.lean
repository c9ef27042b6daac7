import Mathlib.Data.Bool.Basic
import TokenConsole.Proofs.Dialog.View
import TokenConsole.Proofs.Grid.View
import TokenConsole.Proofs.Page.Calls
import TokenConsole.Proofs.Page.Rows

/-!
# One dialog at a time

Opening a dialog closes the other one of its page, but it leaves the question of the grid as it is.
The question covers the grid only, so the buttons over the grid still open a dialog. That is the one
way to have two dialogs up, and then one press of Escape dismisses both.
-/
namespace TokenConsole

open TokenConsole.Calendar (Zone)
open TokenConsole.Screen (Node)

namespace Dialog

variable {α : Type} [Outcome α]

/-- A dialog that is open was open before, or has just been opened afresh. -/
theorem isOpen_of_update {now : Nat} {m : Message α} {d : Dialog α} {toasts : Toasts}
    (h : (d.update now m toasts).dialog.isOpen = true) : d.isOpen = true := by
  cases hm : m.closes with
  | true =>
    obtain rfl := eq_close_of_closes hm
    cases h
  | false =>
    obtain ⟨form, focused, inline, isSubmitting, hd⟩ := d.update_of_not_closes now toasts hm
    rw [hd] at h
    exact h

theorem update_isOpen_le (now : Nat) (m : Message α) (d : Dialog α) (toasts : Toasts) :
    (d.update now m toasts).dialog.isOpen.toNat ≤ d.isOpen.toNat :=
  Bool.toNat_le_toNat isOpen_of_update

end Dialog

/-! ### The login page -/

namespace LoginPage

/-- How many dialogs are up. -/
def up (p : LoginPage) : Nat := p.signIn.isOpen.toNat + p.signUp.isOpen.toNat

theorem up_update (p : LoginPage) (h : p.up ≤ 1) (now : Nat) (m : Message) (toasts : Toasts) :
    (p.update now m toasts).page.up ≤ 1 := by
  cases m with
  | openSignIn => exact Nat.le_refl 1
  | openSignUp => exact Nat.le_refl 1
  | signIn m =>
    have hdialog := p.signIn.update_isOpen_le now m toasts
    exact Nat.le_trans (Nat.add_le_add_right hdialog _) h
  | signUp m =>
    have hdialog := p.signUp.update_isOpen_le now m toasts
    exact Nat.le_trans (Nat.add_le_add_left hdialog _) h

end LoginPage

/-! ### The admin page -/

namespace AdminPage

/-- How many dialogs are up, with the question of the grid. -/
def up (p : AdminPage) : Nat :=
  p.tokenize.isOpen.toNat + p.detokenize.isOpen.toNat + p.grid.confirming.isSome.toNat

/-- The dialogs of the page are not open both. -/
def Apart (p : AdminPage) : Prop := p.tokenize.isOpen.toNat + p.detokenize.isOpen.toNat ≤ 1

/-- What the drawn page, the keys and the clock can send. -/
def Offers [Zone] (p : AdminPage) (m : Message) : Prop :=
  (p.view id).Sends m ∨ (∃ e, m ∈ p.onKey e) ∨
    ∃ now, m = .tokenize (.tick now) ∨ m = .detokenize (.tick now)

/-- A dialog opens over the question of the grid. -/
def Stacks (p : AdminPage) (m : Message) : Prop :=
  (m = .openTokenize ∨ m = .openDetokenize) ∧ p.grid.confirming.isSome = true

/-- The message puts something up. -/
def Message.opens : Message → Bool
  | .openTokenize | .openDetokenize | .grid (.requestDelete _) => true
  | _ => false

theorem Message.opens_of_report {m : Message} {j : Job} (h : m.job? = some j) :
    m.opens = false := by
  cases m with
  | grid m =>
    cases m with
    | requestDelete id => cases h
    | _ => rfl
  | openTokenize => cases h
  | openDetokenize => cases h
  | _ => rfl

section

variable [Zone] (p : AdminPage) (now : Nat) (toasts : Toasts)

theorem up_update_le {m : Message} (hm : m.opens = false) :
    (p.update now m toasts).page.up ≤ p.up := by
  have hquestion : (p.update now m toasts).page.grid.confirming.isSome.toNat ≤
      p.grid.confirming.isSome.toNat := by
    refine Bool.toNat_le_toNat fun hsome => ?_
    obtain ⟨id, hid⟩ := Option.isSome_iff_exists.1 hsome
    rcases confirming_update hid with ⟨rfl, -⟩ | ⟨hold, -⟩
    · cases hm
    · rw [hold]
      rfl
  cases m with
  | openTokenize => cases hm
  | openDetokenize => cases hm
  | tokenize m =>
    have hdialog := p.tokenize.update_isOpen_le now m toasts
    rw [update_tokenize] at hquestion ⊢
    exact Nat.add_le_add (Nat.add_le_add_right hdialog _) hquestion
  | detokenize m =>
    have hdialog := p.detokenize.update_isOpen_le now m toasts
    exact Nat.add_le_add (Nat.add_le_add_left hdialog _) hquestion
  | grid m => exact Nat.add_le_add_left hquestion _
  | logout => exact Nat.le_refl _

theorem up_openTokenize : (p.update now .openTokenize toasts).page.up =
    1 + p.grid.confirming.isSome.toNat := rfl

theorem up_openDetokenize : (p.update now .openDetokenize toasts).page.up =
    1 + p.grid.confirming.isSome.toNat := by
  simp [update, up, Dialog.openWith, Dialog.close]

theorem up_requestDelete_le (id : String) :
    (p.update now (.grid (.requestDelete id)) toasts).page.up ≤
      p.tokenize.isOpen.toNat + p.detokenize.isOpen.toNat + 1 :=
  Nat.add_le_add_left (Bool.toNat_le _) _

theorem apart_update {p : AdminPage} (h : p.Apart) (m : Message) :
    (p.update now m toasts).page.Apart := by
  cases m with
  | openTokenize => exact Nat.le_refl 1
  | openDetokenize => exact Nat.le_refl 1
  | tokenize m =>
    have hdialog := p.tokenize.update_isOpen_le now m toasts
    rw [update_tokenize]
    exact Nat.le_trans (Nat.add_le_add_right hdialog _) h
  | detokenize m =>
    have hdialog := p.detokenize.update_isOpen_le now m toasts
    exact Nat.le_trans (Nat.add_le_add_left hdialog _) h
  | _ => exact h

end

/-! What the page offers. -/

section

variable [Zone] {p : AdminPage}

/-- The grid is the only part of the page that has an input. -/
theorem types_base {ns : List (Node Message)} (hns : ∀ n ∈ ns, n.inputs = []) {m : Message}
    (h : (Node.surface .background (ns ++ [p.grid.view .grid])).Types m) :
    ∃ s, m = .grid (.filter s) := by
  obtain ⟨i, hi, hm⟩ := h
  obtain ⟨n, hn, hi⟩ := Node.mem_inputsOf.1 hi
  rcases List.mem_append.1 hn with hn | hn
  · rw [hns n hn] at hi
    cases hi
  · obtain rfl := List.mem_singleton.1 hn
    exact Grid.types_view ⟨i, hi, hm⟩

/-- What lies under an open dialog sends no more than the text of the filter. -/
theorem closed_of_sends {m : Grid.Message} (hm : ∀ s, m ≠ .filter s)
    (h : (p.view id).Sends (.grid m)) :
    p.tokenize.isOpen = false ∧ p.detokenize.isOpen = false := by
  have hbase : ∀ ns : List (Node Message), (∀ n ∈ ns, n.inputs = []) →
      ¬(Node.surface .background (ns ++ [p.grid.view .grid])).Types (.grid m) := by
    intro ns hns ht
    obtain ⟨s, hs⟩ := types_base hns ht
    exact hm s (Message.grid.inj hs)
  rcases Dialog.sends_drawOver _ _ h with ⟨-, x, -, hx⟩ | ⟨hd, h⟩ | ht
  · cases hx
  · rcases Dialog.sends_drawOver _ _ h with ⟨-, x, -, hx⟩ | ⟨ht, -⟩ | ht
    · cases hx
    · exact ⟨ht, hd⟩
    · exact absurd ht (hbase _ (by simp [Node.inputs]))
  · rcases Dialog.types_drawOver _ _ ht with ⟨x, hx⟩ | ht
    · cases hx
    · exact absurd ht (hbase _ (by simp [Node.inputs]))

theorem closed_of_offers_requestDelete {k : String} (h : p.Offers (.grid (.requestDelete k))) :
    p.tokenize.isOpen = false ∧ p.detokenize.isOpen = false := by
  rcases h with hview | ⟨e, he⟩ | ⟨now, he | he⟩
  · exact closed_of_sends (fun s hs => by cases hs) hview
  · -- No key asks for a deletion.
    simp only [onKey, List.mem_append, Option.mem_toList, Option.map_eq_some_iff] at he
    rcases he with (⟨m, -, he⟩ | ⟨m, -, he⟩) | ⟨m, hkey, he⟩
    · cases he
    · cases he
    · cases he
      simp only [Grid.onKey] at hkey
      split at hkey <;> cases hkey
  · cases he
  · cases he

/-- With no dialog open, the buttons over the grid open one, whatever the grid asks. -/
theorem offers_open (ht : p.tokenize.isOpen = false) (hd : p.detokenize.isOpen = false) :
    p.Offers .openTokenize ∧ p.Offers .openDetokenize := by
  have hview : p.view id = .surface .background ([
      .text (.heading3 "Tokens"),
      .button .primary (.bodyMedium "Tokenize") (some .openTokenize),
      .button .secondary (.body "Detokenize") (some .openDetokenize),
      .button .transparent (.body "Logout") (some .logout)] ++ [p.grid.view .grid]) := by
    simp [view, Dialog.drawOver, ht, hd]
  constructor
  · refine .inl ?_
    simp [hview]
  · refine .inl ?_
    simp [hview]

theorem offers_requestDelete (ht : p.tokenize.isOpen = false) (hd : p.detokenize.isOpen = false)
    (hc : p.grid.confirming = none) {row : Gateway.Mapping} (hrow : row ∈ p.grid.visible)
    (hidle : p.grid.isDeleting row.id = false) : p.Offers (.grid (.requestDelete row.id)) := by
  have hgrid : (p.grid.view Message.grid).Sends (.grid (.requestDelete row.id)) :=
    Grid.sends_requestDelete hc hrow hidle
  refine .inl ?_
  simp [view, Dialog.drawOver, ht, hd, hgrid]

/-- Of what the page offers, only stacking puts a second dialog up. -/
theorem up_update_le_one_iff (h : p.up ≤ 1) {m : Message} (hoff : p.Offers m) (now : Nat)
    (toasts : Toasts) : (p.update now m toasts).page.up ≤ 1 ↔ ¬p.Stacks m := by
  have hopen : 1 + p.grid.confirming.isSome.toNat ≤ 1 ↔ p.grid.confirming.isSome = false := by
    cases p.grid.confirming.isSome <;> simp
  by_cases hm : m.opens = true
  · cases m with
    | openTokenize =>
      rw [up_openTokenize, hopen]
      simp [Stacks]
    | openDetokenize =>
      rw [up_openDetokenize, hopen]
      simp [Stacks]
    | grid m =>
      cases m with
      | requestDelete k =>
        obtain ⟨ht, hd⟩ := closed_of_offers_requestDelete hoff
        have hle := p.up_requestDelete_le now toasts k
        rw [ht, hd] at hle
        have hstacks : ¬p.Stacks (.grid (.requestDelete k)) := by
          rintro ⟨he | he, -⟩ <;> cases he
        exact ⟨fun _ => hstacks, fun _ => hle⟩
      | _ => cases hm
    | _ => cases hm
  · have hle := p.up_update_le now toasts (by simpa using hm)
    have hstacks : ¬p.Stacks m := by
      rintro ⟨rfl | rfl, -⟩ <;> exact hm rfl
    exact ⟨fun _ => hstacks, fun _ => Nat.le_trans hle h⟩

end

/-- At most one dialog is up as long as none is opened over the question. -/
theorem keeps_up [Zone] :
    machine.Keeps (fun p m => p.Offers m ∧ ¬p.Stacks m) fun p _ => p.up ≤ 1 where
  message env _ _ _ h hoff := (up_update_le_one_iff h hoff.1 env.1 env.2).2 hoff.2
  report env _ _ p _ _ hm h :=
    Nat.le_trans (p.up_update_le env.1 env.2 (Message.opens_of_report hm)) h

theorem allReport_start [Zone] : machine.AllReport start :=
  Machine.allReport_begin fun f hf => ⟨.load, (List.mem_singleton.1 hf : f = _) ▸ reports_load⟩

theorem reaches_up [Zone] {a r : Runtime AdminPage Message} (ha : machine.AllReport a)
    (hup : a.state.up ≤ 1) (h : machine.Reaches (fun p m => p.Offers m ∧ ¬p.Stacks m) a r) :
    r.state.up ≤ 1 :=
  (h.accounts plans.faithful keeps_up ha hup).2

end AdminPage

/-! ### Escape -/

/-- Each dialog that is up listens to the keys, and Escape dismisses each of them. -/
structure LoginPage.Escapes (p : LoginPage) : Prop where
  listeners : p.sources.count .keys = p.up
  messages : ∀ e, e.key = .escape → e.released = false → (p.onKey e).length = p.up
  dismissed : ∀ e, e.key = .escape → e.released = false → ∀ now toasts,
    ((p.onKey e).foldl (fun p m => (p.update now m toasts).page) p).up = 0

structure AdminPage.Escapes [Zone] (p : AdminPage) : Prop where
  listeners : p.sources.count .keys = p.up
  messages : ∀ e, e.key = .escape → e.released = false → (p.onKey e).length = p.up
  dismissed : ∀ e, e.key = .escape → e.released = false → ∀ now toasts,
    ((p.onKey e).foldl (fun p m => (p.update now m toasts).page) p).up = 0

theorem Dialog.count_sources {α : Type} (d : Dialog α) :
    d.sources.count .keys = d.isOpen.toNat := by
  unfold sources
  cases d.isOpen <;> cases d.inline.isSome <;> rfl

theorem Grid.count_sources (g : Grid) : g.sources.count .keys = g.confirming.isSome.toNat := by
  unfold sources listensToKeys
  cases g.confirming <;> rfl

theorem Dialog.onKey_escape {α : Type} (d : Dialog α) {e : KeyEvent} (he : e.key = .escape)
    (hr : e.released = false) : d.onKey e = if d.isOpen then some .close else none := by
  unfold onKey listensToKeys
  cases d.isOpen <;> simp [he, hr]

theorem Grid.onKey_escape (g : Grid) {e : KeyEvent} (he : e.key = .escape)
    (hr : e.released = false) :
    g.onKey e = if g.confirming.isSome then some .cancelDelete else none := by
  simp [onKey, listensToKeys, he, hr]

theorem LoginPage.escapes (p : LoginPage) : p.Escapes where
  listeners := by simp only [sources, List.count_append, Dialog.count_sources, up]
  messages e he hr := by
    simp only [onKey, Dialog.onKey_escape _ he hr, up]
    cases p.signIn.isOpen <;> cases p.signUp.isOpen <;> rfl
  dismissed e he hr now toasts := by
    simp only [onKey, Dialog.onKey_escape _ he hr]
    cases hi : p.signIn.isOpen <;> cases hu : p.signUp.isOpen <;>
      simp [update, Dialog.update, Dialog.close, up, hi, hu]

theorem AdminPage.escapes [Zone] (p : AdminPage) : p.Escapes where
  listeners := by
    simp only [sources, List.count_append, Dialog.count_sources, Grid.count_sources, up]
  messages e he hr := by
    simp only [onKey, Dialog.onKey_escape _ he hr, Grid.onKey_escape _ he hr, up]
    cases p.tokenize.isOpen <;> cases p.detokenize.isOpen <;> cases p.grid.confirming <;> rfl
  dismissed e he hr now toasts := by
    simp only [onKey, Dialog.onKey_escape _ he hr, Grid.onKey_escape _ he hr]
    cases ht : p.tokenize.isOpen <;> cases hd : p.detokenize.isOpen <;>
      cases hc : p.grid.confirming <;>
        simp [update, Dialog.update, Dialog.close, Grid.update, up, ht, hd, hc]

/-! ### Every run -/

/-- At most one dialog of the login page is up. On the admin page the dialogs exclude each other,
and at most one of them and the question of the grid is up, as long as no dialog is opened over the
question: of all that the page offers, only that puts a second one up. -/
theorem one_dialog_unless_stacked [Zone] {offered : LoginPage → LoginPage.Message → Prop}
    {l : Runtime LoginPage LoginPage.Message} {r : Runtime AdminPage AdminPage.Message}
    (hl : LoginPage.machine.Reaches offered LoginPage.start l)
    (hr : AdminPage.machine.Reaches AdminPage.Offers AdminPage.start r) :
    (l.state.up ≤ 1 ∧ l.state.Escapes) ∧ (r.state.Apart ∧ r.state.Escapes) ∧
      (r.state.up ≤ 1 → ∀ env m, r.state.Offers m →
        ((AdminPage.machine.update env m r.state).1.up ≤ 1 ↔ ¬r.state.Stacks m)) ∧
      (r.state.up ≤ 1 → ∀ later,
        AdminPage.machine.Reaches (fun p m => p.Offers m ∧ ¬p.Stacks m) r later →
          later.state.up ≤ 1) := by
  have hlogin : l.state.up ≤ 1 :=
    hl.kept (fun env m p hp => p.up_update hp env.1 m env.2) (by decide)
  have hkeep : ∀ (env : Nat × Toasts) (m : AdminPage.Message) (p : AdminPage), p.Apart →
      (AdminPage.machine.update env m p).1.Apart :=
    fun env m p hp => AdminPage.apart_update env.1 env.2 hp m
  have hapart : r.state.Apart := hr.kept hkeep (Nat.zero_le 1)
  have hreport : AdminPage.machine.AllReport r :=
    hr.allReport AdminPage.plans.faithful AdminPage.allReport_start
  exact ⟨⟨hlogin, l.state.escapes⟩, ⟨hapart, r.state.escapes⟩,
    fun hup env m hoff => AdminPage.up_update_le_one_iff hup hoff env.1 env.2,
    fun hup later h => AdminPage.reaches_up hreport hup h⟩

namespace AdminPage

/-- A page with one row, whose deletion waits to be confirmed. -/
def asking : Runtime AdminPage Message :=
  machine.step (.message (0, .empty 4000) (.grid (.requestDelete "a")))
    (machine.run (finishing 0 [Grid.bareRow "a"]) start)

theorem reaches_asking : machine.Reaches (fun p m => p.Offers m ∧ ¬p.Stacks m) start asking := by
  have hload : machine.Reaches (fun _ _ => False) start
      (machine.run (finishing 0 [Grid.bareRow "a"]) start) := Machine.reaches_run (by decide)
  refine (hload.mono fun _ _ hf => hf.elim).trans (.message ⟨?_, ?_⟩ _)
  · have hrow : Grid.bareRow "a" ∈ (machine.run (finishing 0 [Grid.bareRow "a"])
        start).state.grid.visible := by decide
    exact offers_requestDelete (by decide) (by decide) (by decide) hrow (by decide)
  · rintro ⟨he | he, -⟩ <;> cases he

theorem asking_offers : asking.state.Offers .openTokenize :=
  (offers_open (by decide) (by decide)).1

end AdminPage

/-- The page asks whether to delete the row, and a dialog opens over that. -/
theorem one_dialog_of_asking :
    AdminPage.asking.state.up ≤ 1 ∧ AdminPage.asking.state.Offers .openTokenize ∧
      ¬(AdminPage.machine.update (0, .empty 4000) .openTokenize AdminPage.asking.state).1.up ≤ 1 ∧
      LoginPage.start.state.up ≤ 1 := by
  have hlogin : LoginPage.machine.Reaches (fun _ _ => True) LoginPage.start LoginPage.start := .refl
  obtain ⟨⟨hone, -⟩, -, -, hlater⟩ := one_dialog_unless_stacked hlogin .refl
  have hasking : AdminPage.asking.state.up ≤ 1 := hlater (by decide) _ AdminPage.reaches_asking
  obtain ⟨-, -, hiff, -⟩ :=
    one_dialog_unless_stacked hlogin (AdminPage.reaches_asking.mono fun _ _ h => h.1)
  refine ⟨hasking, AdminPage.asking_offers, fun hle => ?_, hone⟩
  exact (hiff hasking _ _ AdminPage.asking_offers).1 hle ⟨.inl rfl, by decide⟩

/-- So what the page offers does put two dialogs up. -/
theorem two_dialogs_up : ¬∀ r, AdminPage.machine.Reaches AdminPage.Offers AdminPage.start r →
    r.state.up ≤ 1 := by
  intro hall
  have hreach := (AdminPage.reaches_asking.mono fun _ _ h => h.1).trans
    (.message (M := AdminPage.machine) AdminPage.asking_offers (0, .empty 4000))
  exact absurd (hall _ hreach) (by decide)

end TokenConsole
