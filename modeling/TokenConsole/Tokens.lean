import TokenConsole.Dialog
import TokenConsole.Number.Whole

/-!
# Tokens

Making a token for a text, and finding the text behind a token.
-/
namespace TokenConsole.Tokens

open TokenConsole.Gateway (Error Flow)

/-- The choice of a lifetime that the user types in. -/
def customTtl : String := "custom"

def ttlChoices : List Choice := [
  ⟨"none", "No expiration"⟩,
  ⟨"300", "5 minutes"⟩,
  ⟨"3600", "1 hour"⟩,
  ⟨"86400", "1 day"⟩,
  ⟨customTtl, "Custom"⟩]

/-- The seconds that a token is to live, by the `ttl_select` and `ttl_custom` fields. Anything that
is no number means for ever, and so does a custom zero. -/
def ttl? (p : Payload) : Option Nat := do
  let select ← p.get? "ttl_select"
  let choice := Text.trim select
  if choice = customTtl then
    let custom ← p.get? "ttl_custom"
    (Number.nat64? (Text.trimChars custom.toList)).filter (0 < ·)
  else Number.nat64? choice.toList

def tokenize (p : Payload) : Flow (Except Error String) :=
  .ask (.tokenize ((p.get? "plaintext").getD "") (ttl? p))

def detokenize (p : Payload) : Flow (Except Error String) :=
  let token := Text.trim ((p.get? "token").getD "")
  if token = "" then .done (.error (.validation Dialog.blankField)) else .ask (.detokenize token)

def plaintextField : Field :=
  { Field.text "plaintext" "Plaintext" with placeholder := "Value to tokenize" }

def ttlField : Field := .select "ttl_select" "Time to live" ttlChoices

def customTtlField : Field :=
  { Field.text "ttl_custom" "Time to live in seconds" with
    placeholder := "Seconds", shownWhen := some ("ttl_select", customTtl) }

def tokenizeDialog : Dialog String :=
  .ofForm "tokenize" "Tokenize" "Tokenize"
    (.ofFields [plaintextField, ttlField, customTtlField] "plaintext") tokenize

def detokenizeDialog : Dialog String :=
  .ofForm "detokenize" "Detokenize" "Detokenize"
    (.ofFields [{ Field.text "token" "Token" with placeholder := "Token id" }] "token") detokenize

end TokenConsole.Tokens
