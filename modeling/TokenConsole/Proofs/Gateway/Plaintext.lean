import TokenConsole.Proofs.Gateway.Reply
import TokenConsole.Proofs.Text.Base64

/-!
# A plaintext there and back

A plaintext is sent in base64, and what comes back for its token is decoded. What was sent comes
back as it was, with any white space around it, and nothing else comes back as this plaintext.
-/
namespace TokenConsole.Gateway

open TokenConsole.Json (Raw)
open TokenConsole.Text (Base64.encodeText Utf8.encode trim isBlank)

/-! ### Decoding -/

/-- A text decodes to the plaintext of which it is the encoding, white space aside. -/
theorem plaintextOf_eq_ok_iff {encoded plaintext : String} : plaintextOf encoded = .ok plaintext ↔
    trim encoded = Base64.encodeText (Utf8.encode plaintext) := by
  constructor
  · intro h
    unfold plaintextOf at h
    split at h
    · cases h
    · next bytes hbytes =>
      split at h
      · cases h
      · next text htext =>
        cases h
        rw [← Text.Utf8.decode_eq_ok_iff.1 htext]
        exact Text.Base64.decode_text_eq_ok_iff.1 hbytes
  · intro h
    have hbytes := Text.Base64.decode_text_eq_ok_iff.2 h
    have htext := Text.Utf8.decode_eq_ok_iff.2 (Eq.refl (Utf8.encode plaintext))
    unfold plaintextOf
    rw [hbytes]
    dsimp only
    rw [htext]

/-! ### Bodies that carry a text -/

namespace Answer

variable {key text : String} {body : List UInt8}

/-- The body is an object that has the key once, with the text under it, or an array of the text
alone. Other keys of the object are texts. -/
inductive Carries (key text : String) (body : List UInt8) : Prop where
  | object {ms : List (Option String × Raw)} (hbody : Raw.read? body = some (.object ms))
    (hkeys : ∀ m ∈ ms, m.1.isNone = false)
    (hmember : ms.filter (·.1 == some key) = [(some key, .string (some text))])
  | array (hbody : Raw.read? body = some (.array [.string (some text)]))

theorem required?_eq_some_iff {v : Raw} : required? key body = some v ↔
    ∃ w, Raw.read? body = some w ∧ field? key w = some (some v) := by
  unfold required?
  simp only [Option.bind_eq_bind, Option.bind_eq_some_iff]
  constructor
  · rintro ⟨w, hw, _, hfield, rfl⟩
    exact ⟨w, hw, hfield⟩
  · rintro ⟨w, hw, hfield⟩
    exact ⟨w, hw, _, hfield, rfl⟩

theorem field?_object_eq_some_iff {ms : List (Option String × Raw)} {v : Raw} :
    field? key (.object ms) = some (some v) ↔
      (∀ m ∈ ms, m.1.isNone = false) ∧ ms.filter (·.1 == some key) = [(some key, v)] := by
  have hany : ms.any (·.1.isNone) = false ↔ ∀ m ∈ ms, m.1.isNone = false := by
    rw [List.any_eq_false]
    exact forall₂_congr fun m _ => Iff.of_eq (Bool.not_eq_true _)
  rw [← hany, field?]
  constructor
  · intro h
    split at h
    · cases h
    · next hkeys =>
      refine ⟨Bool.eq_false_iff.2 hkeys, ?_⟩
      split at h
      · cases h
      · next k w hfilter =>
        cases h
        have hk : (k, v) ∈ ms.filter (·.1 == some key) := hfilter ▸ List.mem_singleton_self _
        have hkey : k = some key := eq_of_beq (List.mem_filter.1 hk).2
        rw [hfilter, hkey]
      · cases h
  · rintro ⟨hkeys, hmember⟩
    rw [hkeys, if_neg Bool.false_ne_true, hmember]

/-- A text is read exactly from the bodies that carry it. -/
theorem text?_eq_some_iff : text? key body = some text ↔ Carries key text body := by
  have hrequired : text? key body = some text ↔
      required? key body = some (.string (some text)) := by
    unfold text?
    constructor
    · intro h
      split at h
      · next s hs => rw [hs, h]
      · cases h
    · intro h
      rw [h]
  rw [hrequired, required?_eq_some_iff]
  constructor
  · rintro ⟨w, hbody, hfield⟩
    cases w with
    | object ms =>
      obtain ⟨hkeys, hmember⟩ := field?_object_eq_some_iff.1 hfield
      exact .object hbody hkeys hmember
    | array items =>
      rcases items with _ | ⟨v, _ | ⟨v', rest⟩⟩
      · cases hfield
      · cases hfield
        exact .array hbody
      · cases hfield
    | null => cases hfield
    | bool b => cases hfield
    | number n => cases hfield
    | string s => cases hfield
  · rintro (⟨hbody, hkeys, hmember⟩ | hbody)
    · exact ⟨_, hbody, field?_object_eq_some_iff.2 ⟨hkeys, hmember⟩⟩
    · exact ⟨_, hbody, rfl⟩

end Answer

/-! ### There and back -/

namespace Call

/-- The call sends the value under the key. -/
def Sends (c : Call) (key : String) (v : Json) : Prop :=
  ∃ ms, c.payload? = some (.object ms) ∧ ms.lookup key = some v

theorem sends_plaintext_iff {plaintext sent : String} {ttl : Option Nat} :
    (Call.tokenize plaintext ttl).Sends "plaintext" (.string sent) ↔
      sent = Base64.encodeText (Utf8.encode plaintext) := by
  constructor
  · rintro ⟨_, ⟨⟩, hlookup⟩
    cases hlookup
    rfl
  · rintro rfl
    exact ⟨_, rfl, rfl⟩

theorem read_of_carries {r : Response} {text : String} (hstatus : r.status = 200)
    (hcut : r.cut = false) (hbody : Answer.Carries "plaintext" text r.body) (token : String) :
    (Call.detokenize token).read r = plaintextOf text := by
  have hheld : r.holding Answer.plaintext? = .ok text := by
    rw [Response.holding, hcut, if_neg Bool.false_ne_true, Answer.plaintext?,
      Answer.text?_eq_some_iff.2 hbody]
  rw [read_of_success (by omega), success, hheld]

/-- A text that comes back as it was sent, with any white space around it, gives the plaintext for
which it was sent. Every text that comes back gives the plaintext for which it would have been sent
without the white space around it, and if there is no such plaintext it cannot be decoded. -/
theorem detokenize_undoes_tokenize (token : String) (ttl : Option Nat) {r : Response}
    {text : String} (hstatus : r.status = 200) (hcut : r.cut = false)
    (hbody : Answer.Carries "plaintext" text r.body) :
    (∀ plaintext sent before after, (Call.tokenize plaintext ttl).Sends "plaintext" (.string sent) →
      isBlank before = true → isBlank after = true → text = before ++ sent ++ after →
        (Call.detokenize token).read r = .ok plaintext) ∧
    (∀ plaintext, (Call.detokenize token).read r = .ok plaintext ↔
      (Call.tokenize plaintext ttl).Sends "plaintext" (.string (trim text))) ∧
    ((∀ plaintext, ¬(Call.tokenize plaintext ttl).Sends "plaintext" (.string (trim text))) →
      ∃ fault, (Call.detokenize token).read r = .error (.decode fault)) := by
  have hread : (Call.detokenize token).read r = plaintextOf text :=
    read_of_carries hstatus hcut hbody token
  have hok : ∀ plaintext, (Call.detokenize token).read r = .ok plaintext ↔
      (Call.tokenize plaintext ttl).Sends "plaintext" (.string (trim text)) := by
    intro plaintext
    rw [hread, plaintextOf_eq_ok_iff, sends_plaintext_iff]
  refine ⟨fun plaintext sent before after hsent hbefore hafter htext => ?_, hok, fun hnone => ?_⟩
  · have hsent' := sends_plaintext_iff.1 hsent
    rw [hok, sends_plaintext_iff, htext, hsent', Text.Base64.trim_encodeText hbefore hafter]
  · cases h : plaintextOf text with
    | ok plaintext => exact absurd ((hok plaintext).1 (hread.trans h)) (hnone plaintext)
    | error e =>
      obtain ⟨fault, rfl⟩ := plaintextOf_error h
      exact ⟨fault, hread.trans h⟩

/-- An answer that brings back an accented letter with a blank on either side. -/
def letterAnswer : Response :=
  ⟨200, Utf8.encode "\x7b\"plaintext\": \" w6k= \"\x7d", false, []⟩

theorem carries_letterAnswer : Answer.Carries "plaintext" " w6k= " letterAnswer.body :=
  Answer.text?_eq_some_iff.1 (by decide +kernel)

theorem detokenize_letter : letterAnswer.status = 200 ∧ letterAnswer.cut = false ∧
    Answer.Carries "plaintext" " w6k= " letterAnswer.body ∧
    (Call.detokenize "t").read letterAnswer = .ok "é" := by
  have hsent : (Call.tokenize "é" none).Sends "plaintext" (.string "w6k=") :=
    sends_plaintext_iff.2 (by decide)
  have hback := detokenize_undoes_tokenize "t" none rfl rfl carries_letterAnswer
  exact ⟨rfl, rfl, carries_letterAnswer,
    hback.1 "é" "w6k=" " " " " hsent (by decide) (by decide) (by decide)⟩

end Call

end TokenConsole.Gateway
