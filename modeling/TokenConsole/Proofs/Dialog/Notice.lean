import TokenConsole.Proofs.Dialog.Reopening

/-!
# What the user is told of a result

The result of a submission is told twice, by a toast and inside the dialog, and never with a blank
text. What a dialog says inside is what it was given to say last, and the clock takes that away when
its own time is over: nothing is left of the time of what it said before.
-/
namespace TokenConsole.Dialog

open TokenConsole.Accounts (signInDialog User)
open TokenConsole.Gateway (Error)

variable {α : Type}

/-! ### The text for a result -/

section

variable [Outcome α] (result : Except Error α)

theorem not_isBlank_verdict : Text.isBlank (verdict result).2.1 = false := by
  cases result with
  | error e =>
    show Text.isBlank (if Text.isBlank e.message then defaultFailure else e.message) = false
    split
    · decide
    · next h => exact Bool.eq_false_iff.2 h
  | ok a =>
    simp only [verdict]
    split
    · show Text.isBlank (Error.unexpectedShape emptyResponse).message = false
      decide
    · next h => exact Bool.eq_false_iff.2 h

theorem verdict_success_iff :
    (verdict result).1 = .success ↔ ∃ a, result = .ok a ∧ Text.trim (Outcome.message a) ≠ "" := by
  cases result with
  | error e => simp [verdict]
  | ok a =>
    simp only [ne_eq, ← Text.isBlank_iff_trim]
    cases hb : Text.isBlank (Outcome.message a) <;> simp [verdict, hb]

theorem verdict_outcome_iff (a : α) :
    (verdict result).2.2 = some a ↔ (verdict result).1 = .success ∧ result = .ok a := by
  cases result with
  | error e => simp [verdict]
  | ok b => cases hb : Text.isBlank (Outcome.message b) <;> simp [verdict, hb]

end

/-! ### What is said inside the dialog -/

/-- The submission is refused, for the required field is blank. -/
def refuses (d : Dialog α) : Bool :=
  d.isOpen && !d.isSubmitting && (blankRequired? d.form).isSome

/-- What the act gives the dialog to say, and when. -/
def Act.notice? [Outcome α] (d : Dialog α) : Act α → Option (Nat × Tone × String)
  | .message now (.submitted result) _ => some (now, (verdict result).1, (verdict result).2.1)
  | .message now .submit _ => if d.refuses then some (now, .error, blankField) else none
  | _ => none

theorem submit_inline (now : Nat) (d : Dialog α) :
    d.refuses = true ∧
        (d.submit now).1.inline = some ⟨.error, blankField, now + inlineTimeout⟩ ∨
      d.refuses = false ∧
        ((d.submit now).1.inline = none ∨ (d.submit now).1.inline = d.inline) := by
  unfold submit refuses
  split
  · next hblocked =>
    have hopen : (d.isOpen && !d.isSubmitting) = false := by
      simpa [imp_iff_not_or] using hblocked
    exact .inr ⟨by rw [hopen, Bool.false_and], .inr rfl⟩
  · next hopen =>
    have hopen : (d.isOpen && !d.isSubmitting) = true := by simpa using hopen
    rw [hopen, Bool.true_and]
    split
    · next f hf => exact .inl ⟨by rw [hf, Option.isSome_some], rfl⟩
    · next hf => exact .inr ⟨by rw [hf, Option.isSome_none], .inl rfl⟩

theorem moveFocus_inline (forward : Bool) (d : Dialog α) :
    (d.moveFocus forward).1.inline = d.inline := by
  obtain ⟨next, hd, -⟩ := d.moveFocus_cases forward
  rw [hd]

theorem update_tick_eq [Outcome α] (clock t : Nat) (d : Dialog α) (toasts : Toasts) :
    d.update clock (.tick t) toasts =
      ⟨if ∃ i ∈ d.inline, i.expiresAt ≤ t then d.hideInline else d, toasts, [], none⟩ := by
  cases hi : d.inline with
  | none => simp [update, hi]
  | some i =>
    have hdue : (∃ j ∈ some i, j.expiresAt ≤ t) ↔ i.expiresAt ≤ t := by simp
    simp only [update, hi, hdue]

section

variable [Outcome α] (d : Dialog α)

/-- An act has the dialog say what it gives it to say, or leaves what the dialog says, or takes it
away. -/
theorem onDialog_inline (a : Act α) :
    (∃ now tone text, a.notice? d = some (now, tone, text) ∧
        (a.onDialog d).1.inline = some ⟨tone, text, now + inlineTimeout⟩) ∨
      a.notice? d = none ∧
        ((a.onDialog d).1.inline = none ∨ (a.onDialog d).1.inline = d.inline) := by
  cases a with
  | opened restore => exact .inr ⟨rfl, .inl rfl⟩
  | closed => exact .inr ⟨rfl, .inr rfl⟩
  | message now m toasts =>
    cases m with
    | input field value => exact .inr ⟨rfl, .inr rfl⟩
    | select field choice =>
      refine .inr ⟨rfl, .inr ?_⟩
      simp only [Act.onDialog, update]
      split <;> rfl
    | submit =>
      show (∃ now' tone text, (if d.refuses then _ else _) = some (now', tone, text) ∧
        (d.submit now).1.inline = _) ∨ (if d.refuses then _ else _) = none ∧ _
      rcases d.submit_inline now with ⟨hrefuses, hinline⟩ | ⟨hrefuses, hinline⟩
      · exact .inl ⟨now, .error, blankField, if_pos hrefuses, hinline⟩
      · exact .inr ⟨if_neg (Bool.eq_false_iff.1 hrefuses), hinline⟩
    | submitted result => exact .inl ⟨now, _, _, rfl, rfl⟩
    | close => exact .inr ⟨rfl, .inr rfl⟩
    | focusNext => exact .inr ⟨rfl, .inr (d.moveFocus_inline true)⟩
    | focusPrevious => exact .inr ⟨rfl, .inr (d.moveFocus_inline false)⟩
    | tick t =>
      refine .inr ⟨rfl, ?_⟩
      simp only [Act.onDialog, update_tick_eq]
      split
      · exact .inl rfl
      · exact .inr rfl

/-- The dialog goes on saying `i` throughout the history, and nothing gives it anything else to
say. -/
def KeepsSaying (i : Inline) (h : List (Act α)) : Prop :=
  Throughout (fun e a => a.notice? e = none ∧ e.inline = some i) d h

/-- What a dialog says was given to it by one act, and it has said it ever since. -/
theorem exists_notice_of_inline (hd : d.inline = none) (h : List (Act α)) {i : Inline}
    (hi : (d.after h).inline = some i) : ∃ before a since now tone text,
      h = before ++ a :: since ∧ a.notice? (d.after before) = some (now, tone, text) ∧
        i = ⟨tone, text, now + inlineTimeout⟩ ∧
        (d.after (before ++ [a])).KeepsSaying i since := by
  induction h using List.reverseRecOn with
  | nil => rw [show d.after [] = d from rfl, hd] at hi; cases hi
  | append_singleton h b ih =>
    have hstep : d.after (h ++ [b]) = (b.onDialog (d.after h)).1 := d.after_append h [b]
    rw [hstep] at hi
    rcases (d.after h).onDialog_inline b with ⟨now, tone, text, hb, hnew⟩ | ⟨hb, hgone | hkept⟩
    · rw [hnew] at hi
      cases hi
      exact ⟨h, b, [], now, tone, text, rfl, hb, rfl, trivial⟩
    · rw [hgone] at hi
      cases hi
    · rw [hkept] at hi
      obtain ⟨before, a, since, now, tone, text, rfl, ha, rfl, hsince⟩ := ih hi
      refine ⟨before, a, since ++ [b], now, tone, text, by simp, ha, rfl, ?_⟩
      refine (throughout_append _).2 ⟨hsince, ?_, trivial⟩
      rw [← after_append, List.append_assoc, List.singleton_append]
      exact ⟨hb, hi⟩

/-- The result of a submission adds one toast, the last one, and has the dialog say the same: a
success if the result is one that says something, else a failure, and never with a blank text. All
else stays, but no submission is under way any more. Whatever is done to a dialog that says nothing
yet, what it says at the end was given to it by one act, it has said it ever since, and a tick takes
it away if 30 seconds have passed since that act, and else changes nothing. -/
theorem results_are_told :
    (∀ (now : Nat) (result : Except Error α) (toasts : Toasts), ∃ tone text outcome,
      d.update now (.submitted result) toasts =
        ⟨{ d with isSubmitting := false, inline := some ⟨tone, text, now + 30000⟩ },
          { toasts with
              nextId := toasts.nextId + 1
              items := toasts.items ++ [⟨toasts.nextId, tone, text, now + toasts.timeout⟩] },
          [], outcome⟩ ∧
      Text.trim text ≠ "" ∧
      (tone = .success ↔ ∃ a, result = .ok a ∧ Text.trim (Outcome.message a) ≠ "") ∧
      ∀ a, outcome = some a ↔ tone = .success ∧ result = .ok a) ∧
    (d.inline = none → ∀ h i, (d.after h).inline = some i →
      ∃ before a since now tone text, h = before ++ a :: since ∧
        a.notice? (d.after before) = some (now, tone, text) ∧ i = ⟨tone, text, now + 30000⟩ ∧
        (d.after (before ++ [a])).KeepsSaying i since ∧
        ∀ clock t toasts, (d.after h).update clock (.tick t) toasts =
          ⟨if now + 30000 ≤ t then { d.after h with inline := none } else d.after h, toasts, [],
            none⟩) := by
  constructor
  · intro now result toasts
    refine ⟨(verdict result).1, (verdict result).2.1, (verdict result).2.2, rfl, ?_,
      verdict_success_iff result, verdict_outcome_iff result⟩
    intro hblank
    have hfalse := not_isBlank_verdict result
    rw [(Text.isBlank_iff_trim _).2 hblank] at hfalse
    cases hfalse
  · intro hd h i hi
    obtain ⟨before, a, since, now, tone, text, hh, ha, he, hsince⟩ :=
      d.exists_notice_of_inline hd h hi
    refine ⟨before, a, since, now, tone, text, hh, ha, he, hsince, fun clock t toasts => ?_⟩
    rw [update_tick_eq, hi, he]
    simp only [Option.mem_def, Option.some.injEq, exists_eq_left']
    rfl

end

/-- A submission without a login is refused, the next one is taken, and it fails 25 seconds after
the first. -/
def failing : List (Act User) :=
  [.opened none, .message 0 .submit (.empty 4000),
    .message 10 (.input "login" "root") (.empty 4000), .message 20 .submit (.empty 4000),
    .message 25000 (.submitted (.error (.transport "down"))) (.empty 4000)]

theorem told_of_failing :
    let d := signInDialog.after failing
    let told : Inline := ⟨.error, "Network error: down", 55000⟩
    signInDialog.inline = none ∧
    (signInDialog.after (failing.take 2)).inline = some ⟨.error, "Please enter text.", 30000⟩ ∧
    d.inline = some told ∧
    (d.update 31000 (.tick 31000) (.empty 4000)).dialog.inline = some told ∧
    (d.update 55000 (.tick 55000) (.empty 4000)).dialog.inline = none := by
  intro d told
  have hnone : signInDialog.inline = none := rfl
  have htold : d.inline = some told := by decide
  obtain ⟨-, hlater⟩ := results_are_told signInDialog
  obtain ⟨-, -, -, now, tone, text, -, -, hi, -, htick⟩ := hlater hnone failing told htold
  have hnow : now + 30000 = 55000 := (congrArg Inline.expiresAt hi).symm
  refine ⟨hnone, by decide, htold, ?_, ?_⟩
  · rw [htick, hnow, if_neg (by decide)]
    exact htold
  · rw [htick, hnow, if_pos (by decide)]

end TokenConsole.Dialog
