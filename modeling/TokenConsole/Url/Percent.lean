import TokenConsole.Number.Radix
import TokenConsole.Text.Utf8

/-!
# Percent encoding

A byte that may not stand for itself in a URL is written as a percent sign and two hexadecimal
digits. What has to be written so depends on the part of the URL; characters that are not ASCII
always have to.
-/
namespace TokenConsole.Url

open TokenConsole.Number (isHexDigit ofRadix hexDigit)

/-- The bytes of controls and of all that is not ASCII. -/
def isControl (c : Char) : Bool := c.toNat < 0x20 || 0x7F ≤ c.toNat

/-- What is encoded in the text after a hash sign. The last one is the grave accent. -/
def inFragmentSet (c : Char) : Bool :=
  isControl c || c == ' ' || c == '"' || c == '<' || c == '>' || c.toNat == 0x60

def inPathSet (c : Char) : Bool :=
  inFragmentSet c || c == '#' || c == '?' || c == '\x7b' || c == '\x7d'

/-- What is encoded in the names before a host. -/
def inCredentialSet (c : Char) : Bool :=
  inPathSet c || c == '/' || c == ':' || c == ';' || c == '=' || c == '@' || c == '[' ||
    c == '\\' || c == ']' || c == '^' || c == '|'

def inQuerySet (c : Char) : Bool :=
  isControl c || c == ' ' || c == '"' || c == '#' || c == '<' || c == '>'

/-- In the query of a web address the apostrophe is encoded as well. -/
def inWebQuerySet (c : Char) : Bool := inQuerySet c || c.toNat == 0x27

def percentByte (b : UInt8) : List Char :=
  ['%', (hexDigit (b.toNat / 16)).toUpper, (hexDigit (b.toNat % 16)).toUpper]

/-- Encodes the characters that `set` accepts. -/
def percentEncode (set : Char → Bool) (s : List Char) : List Char :=
  s.flatMap fun c => if set c then (String.utf8EncodeChar c).flatMap percentByte else [c]

/-- The bytes of a text in which percent signs with two digits stand for bytes. -/
def percentDecode : List Char → List UInt8
  | [] => []
  | [c] => String.utf8EncodeChar c
  | [c, d] => String.utf8EncodeChar c ++ String.utf8EncodeChar d
  | c :: a :: b :: rest =>
    if c == '%' && isHexDigit a && isHexDigit b then
      UInt8.ofNat (ofRadix 16 [a, b]) :: percentDecode rest
    else String.utf8EncodeChar c ++ percentDecode (a :: b :: rest)

end TokenConsole.Url
