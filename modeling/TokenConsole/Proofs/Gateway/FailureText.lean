import TokenConsole.Proofs.Gateway.Plaintext
import TokenConsole.Proofs.Json.Grammar

/-!
# What a failed answer says

The text of a failure comes from the first of four sources that has more than white space to say:
the error that a JSON body names, a JSON body that is a text alone, the body as it is, the reason of
the status. So the status speaks for a body only if there is nothing to see in it, and a failure
without a text has neither.
-/
namespace TokenConsole.Gateway.Answer

open TokenConsole.Json (Raw)
open TokenConsole.Json.Raw (TextOf)
open TokenConsole.Text (Utf8.encode isSpace isBlank trim)

variable {said body : String} {status : Nat}

/-- The body names the error `said`: it is a JSON object of which all keys are texts and one is
`error`, or a JSON array of one item, and there stands this text. -/
inductive NamesError (said body : String) : Prop where
  | member {before after : List (Option String × Raw)}
    (hbody : TextOf (.object (before ++ (some "error", .string (some said)) :: after))
      (Utf8.encode body))
    (hothers : ∀ m ∈ before ++ after, ∃ key, m.1 = some key ∧ key ≠ "error")
  | item (hbody : TextOf (.array [.string (some said)]) (Utf8.encode body))

/-- The body is the JSON text `said`. -/
def IsText (said body : String) : Prop := TextOf (.string (some said)) (Utf8.encode body)

/-! ### The two readers -/

theorem other_key_iff {k : Option String} {key : String} :
    (∃ other, k = some other ∧ other ≠ key) ↔ k.isNone = false ∧ ¬(k == some key) = true := by
  cases k with
  | none => simp
  | some other => simp

/-- All keys are texts, and `key` is the key of one member alone. -/
theorem only_member_iff {ms : List (Option String × Raw)} {key : String} {v : Raw} :
    ((∀ m ∈ ms, m.1.isNone = false) ∧ ms.filter (·.1 == some key) = [(some key, v)]) ↔
      ∃ before after, ms = before ++ (some key, v) :: after ∧
        ∀ m ∈ before ++ after, ∃ other, m.1 = some other ∧ other ≠ key := by
  constructor
  · rintro ⟨hkeys, hmember⟩
    obtain ⟨before, after, rfl, hbefore, -, hafter⟩ := List.filter_eq_cons_iff.1 hmember
    rw [List.forall_mem_append, List.forall_mem_cons] at hkeys
    refine ⟨before, after, rfl, List.forall_mem_append.2 ⟨fun m hm => ?_, fun m hm => ?_⟩⟩
    · exact other_key_iff.2 ⟨hkeys.1 m hm, hbefore m hm⟩
    · exact other_key_iff.2 ⟨hkeys.2.2 m hm, List.filter_eq_nil_iff.1 hafter m hm⟩
  · rintro ⟨before, after, rfl, hothers⟩
    obtain ⟨hbefore, hafter⟩ := List.forall_mem_append.1 hothers
    have hnone : ∀ {ms : List (Option String × Raw)},
        (∀ m ∈ ms, ∃ other, m.1 = some other ∧ other ≠ key) → ms.filter (·.1 == some key) = [] :=
      fun h => List.filter_eq_nil_iff.2 fun m hm => (other_key_iff.1 (h m hm)).2
    constructor
    · rw [List.forall_mem_append, List.forall_mem_cons]
      exact ⟨fun m hm => (other_key_iff.1 (hbefore m hm)).1, rfl,
        fun m hm => (other_key_iff.1 (hafter m hm)).1⟩
    · rw [List.filter_append, hnone hbefore, List.nil_append,
        List.filter_cons_of_pos (by simp), hnone hafter]

theorem errorField?_eq_text? (bytes : List UInt8) : errorField? bytes = text? "error" bytes := by
  unfold errorField? text? required?
  cases Raw.read? bytes with
  | none => rfl
  | some v => cases hfield : field? "error" v <;> simp [hfield]

theorem errorField?_eq_some_iff :
    errorField? (Utf8.encode body) = some said ↔ NamesError said body := by
  rw [errorField?_eq_text?, text?_eq_some_iff]
  constructor
  · rintro (⟨hbody, hkeys, hmember⟩ | hbody)
    · obtain ⟨before, after, rfl, hothers⟩ := only_member_iff.1 ⟨hkeys, hmember⟩
      exact .member (Raw.read?_eq_some_iff.1 hbody) hothers
    · exact .item (Raw.read?_eq_some_iff.1 hbody)
  · rintro (⟨hbody, hothers⟩ | hbody)
    · obtain ⟨hkeys, hmember⟩ := only_member_iff.2 ⟨_, _, rfl, hothers⟩
      exact .object (Raw.read?_eq_some_iff.2 hbody) hkeys hmember
    · exact .array (Raw.read?_eq_some_iff.2 hbody)

theorem bareText?_eq_some_iff : bareText? (Utf8.encode body) = some said ↔ IsText said body := by
  rw [IsText, ← Raw.read?_eq_some_iff, bareText?]
  constructor
  · intro h
    split at h
    · next s hs => rw [hs, h]
    · cases h
  · intro h
    rw [h]

/-- No body does both. -/
theorem not_namesError_of_isText {other : String} (h : IsText said body) :
    ¬NamesError other body := by
  rintro (⟨hbody, -⟩ | hbody)
  · cases Raw.TextOf.unique h hbody
  · cases Raw.TextOf.unique h hbody

/-- The readers are asked one after the other, and what they find is passed over if it is blank.
As no body does both, it makes no difference that a blank error hides the text from the second. -/
theorem found_eq_some_iff :
    (errorField? (Utf8.encode body) <|> bareText? (Utf8.encode body)).filter
        (fun s => !isBlank s) = some said ↔
      (NamesError said body ∨ IsText said body) ∧ isBlank said = false := by
  rw [Option.filter_eq_some_iff, Bool.not_eq_true', Option.orElse_eq_orElse, Option.orElse_eq_or,
    Option.or_eq_some_iff, errorField?_eq_some_iff, bareText?_eq_some_iff]
  refine and_congr_left fun _ => or_congr_right ⟨fun h => h.2, fun h => ⟨?_, h⟩⟩
  rw [Option.eq_none_iff_forall_ne_some]
  exact fun other hother => not_namesError_of_isText h (errorField?_eq_some_iff.1 hother)

theorem found_eq_none_iff :
    (errorField? (Utf8.encode body) <|> bareText? (Utf8.encode body)).filter
        (fun s => !isBlank s) = none ↔
      ∀ said, NamesError said body ∨ IsText said body → isBlank said = true := by
  rw [Option.eq_none_iff_forall_ne_some]
  refine forall_congr' fun said => ?_
  rw [Ne, found_eq_some_iff, not_and, Bool.not_eq_false]

/-! ### Blank bodies -/

/-- A JSON text can be seen. -/
theorem not_isBlank_of_textOf {v : Raw} (h : TextOf v (Utf8.encode body)) :
    isBlank body = false := by
  obtain ⟨before, text, after, -, htext, -, hbytes⟩ := h
  obtain ⟨b, rest, rfl, hlow, hhigh, -, -⟩ := htext.head
  have hmem : b ∈ Utf8.encode body := by
    rw [hbytes]
    exact List.mem_append_right _ (List.mem_cons_self ..)
  obtain ⟨c, hc, hcode⟩ := Text.Utf8.exists_mem_of_mem_encode hmem hhigh
  have hseen : isSpace c = false := by
    simp only [isSpace, Bool.or_eq_false_iff, Bool.and_eq_false_iff, decide_eq_false_iff_not,
      beq_eq_false_iff_ne]
    omega
  rw [isBlank, List.all_eq_false]
  exact ⟨c, hc, by rw [hseen]; exact Bool.false_ne_true⟩

theorem reason_not_isBlank {reason : String} (h : Status.reason? status = some reason) :
    isBlank reason = false := by
  have hall : ∀ e ∈ Status.reasons, isBlank e.2 = false := by decide +kernel
  obtain ⟨before, after, hreasons, -⟩ := List.lookup_eq_some_iff.1 h
  exact hall (status, reason) (by rw [hreasons]; simp)

/-! ### The four sources -/

theorem failureText_of_said (h : NamesError said body ∨ IsText said body)
    (hsaid : isBlank said = false) : failureText status body = said := by
  rw [failureText]
  dsimp only
  rw [found_eq_some_iff.2 ⟨h, hsaid⟩]

theorem failureText_of_unsaid
    (h : ∀ said, NamesError said body ∨ IsText said body → isBlank said = true) :
    failureText status body =
      if isBlank body then (Status.reason? status).getD "" else trim body := by
  rw [failureText]
  dsimp only
  rw [found_eq_none_iff.2 h]
  by_cases hblank : isBlank body = true
  · rw [if_neg (not_not_intro ((Text.isBlank_iff_trim body).1 hblank)), if_pos hblank]
  · rw [if_pos (mt (Text.isBlank_iff_trim body).2 hblank), if_neg hblank]

theorem unsaid_of_isBlank (h : isBlank body = true) :
    ¬(NamesError said body ∨ IsText said body) := by
  have hnone : ∀ v, ¬TextOf v (Utf8.encode body) := by
    intro v hv
    rw [not_isBlank_of_textOf hv] at h
    cases h
  rintro ((⟨hbody, -⟩ | hbody) | hbody)
  · exact hnone _ hbody
  · exact hnone _ hbody
  · exact hnone _ hbody

/-- A blank body says nothing, so only the status is left. -/
theorem failureText_of_isBlank (h : isBlank body = true) :
    failureText status body = (Status.reason? status).getD "" := by
  rw [failureText_of_unsaid fun said hsaid => absurd hsaid (unsaid_of_isBlank h), if_pos h]

/-- A body of which something can be seen speaks for itself, whatever the status. -/
theorem failureText_of_seen (h : isBlank body = false) :
    ∃ text, isBlank text = false ∧ ∀ status, failureText status body = text := by
  by_cases hsaid : ∃ said, (NamesError said body ∨ IsText said body) ∧ isBlank said = false
  · obtain ⟨said, hfound, hseen⟩ := hsaid
    exact ⟨said, hseen, fun _ => failureText_of_said hfound hseen⟩
  · have hunsaid : ∀ said, NamesError said body ∨ IsText said body → isBlank said = true :=
      fun said hfound => Bool.of_not_eq_false fun hseen => hsaid ⟨said, hfound, hseen⟩
    have htrim : isBlank (trim body) = false := by
      rw [Bool.eq_false_iff, Ne, Text.isBlank_iff_trim, Text.trim_trim, ← Text.isBlank_iff_trim, h]
      exact Bool.false_ne_true
    refine ⟨trim body, htrim, fun _ => ?_⟩
    rw [failureText_of_unsaid hunsaid, h, if_neg Bool.false_ne_true]

theorem isBlank_failureText_iff : isBlank (failureText status body) = true ↔
    isBlank body = true ∧ Status.reason? status = none := by
  cases hbody : isBlank body with
  | false =>
    obtain ⟨text, hseen, htext⟩ := failureText_of_seen hbody
    rw [htext, hseen]
    simp
  | true =>
    rw [failureText_of_isBlank hbody]
    cases hreason : Status.reason? status with
    | none => simp [isBlank]
    | some reason => simp [reason_not_isBlank hreason]

/-- For every status and every body: the error that the body names, else the text that it is, else
the body without white space around it, else the reason of the status, and what is blank is passed
over. So the text is blank only if there is nothing to see in the body and the status has no reason,
and the status makes no difference to a body in which there is something to see. -/
theorem failureText_of_body (status : Nat) (body : String) :
    (∀ said, NamesError said body → isBlank said = false → failureText status body = said) ∧
    (∀ said, IsText said body → isBlank said = false → failureText status body = said) ∧
    (isBlank body = false →
      (∀ said, NamesError said body ∨ IsText said body → isBlank said = true) →
        failureText status body = trim body) ∧
    (isBlank body = true → failureText status body = (Status.reason? status).getD "") ∧
    (isBlank (failureText status body) = true ↔
      isBlank body = true ∧ Status.reason? status = none) ∧
    (isBlank body = false → isBlank (failureText status body) = false ∧
      ∀ other, failureText other body = failureText status body) := by
  refine ⟨fun said hsaid => failureText_of_said (.inl hsaid),
    fun said hsaid => failureText_of_said (.inr hsaid), fun hseen hunsaid => ?_,
    failureText_of_isBlank, isBlank_failureText_iff, fun hseen => ?_⟩
  · rw [failureText_of_unsaid hunsaid, hseen, if_neg Bool.false_ne_true]
  · obtain ⟨text, htext, hall⟩ := failureText_of_seen hseen
    rw [hall status]
    exact ⟨htext, hall⟩

/-- An error that is named twice is not named, and a body of other white space than that of JSON
says nothing. -/
theorem failureText_of_bodies :
    failureText 404 "\x7b\"id\":[1,\x7b\x7d],\"error\":\"gone\"\x7d" = "gone" ∧
    failureText 500 "\"no list\"\n" = "no list" ∧
    failureText 500 " \x7b\"error\":\"a\",\"error\":\"b\"\x7d" =
      "\x7b\"error\":\"a\",\"error\":\"b\"\x7d" ∧
    failureText 500 "\u00a0\n" = "Internal Server Error" ∧ failureText 599 "\u00a0\n" = "" := by
  obtain ⟨hnamed, -⟩ :=
    failureText_of_body 404 "\x7b\"id\":[1,\x7b\x7d],\"error\":\"gone\"\x7d"
  obtain ⟨-, htext, -⟩ := failureText_of_body 500 "\"no list\"\n"
  obtain ⟨-, -, hshown, -⟩ :=
    failureText_of_body 500 " \x7b\"error\":\"a\",\"error\":\"b\"\x7d"
  obtain ⟨-, -, -, hreason, -⟩ := failureText_of_body 500 "\u00a0\n"
  obtain ⟨-, -, -, hnothing, -⟩ := failureText_of_body 599 "\u00a0\n"
  refine ⟨hnamed "gone" (errorField?_eq_some_iff.1 (by decide +kernel)) (by decide),
    htext "no list" (bareText?_eq_some_iff.1 (by decide +kernel)) (by decide), ?_,
    hreason (by decide), hnothing (by decide)⟩
  rw [hshown (by decide) (found_eq_none_iff.1 (by decide +kernel))]
  decide +kernel

end TokenConsole.Gateway.Answer
