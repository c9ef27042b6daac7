import TokenConsole.Text.LowerCase
import TokenConsole.Text.Normal
import TokenConsole.Text.Split
import TokenConsole.Url.Direction
import TokenConsole.Url.DomainFormTable
import TokenConsole.Url.DomainTable
import TokenConsole.Url.Joiner
import TokenConsole.Url.Punycode

/-!
# Domain names

A domain is written in ASCII. Characters take the form that domains have, as small letters and
without what only looks different, and the text is composed. Then a label with other characters is
written in Punycode behind `xn--`. A label that is written so already has to be what its text is
written as.
-/
namespace TokenConsole.Url

open TokenConsole.Text (composed inRanges lowerChar splitWhere)

/-- Letters of Cherokee, which stay as they are although they have small forms. -/
def isCherokee (c : Char) : Bool := 0x13A0 ≤ c.toNat && c.toNat ≤ 0x13F5

/-- A character in the form that domains have. -/
def domainChar (c : Char) : List Char :=
  if c.toNat < 0x80 then [c.toLower]
  else if inRanges ignoredRanges c then []
  else if isCherokee c then [c]
  else (domainForms.get? c).getD (lowerChar c)

/-- A text in the form that domains have. -/
def domainText (s : List Char) : List Char := composed (s.flatMap domainChar)

/-- ASCII characters that end a domain or have a meaning around it. -/
def isForbiddenAscii (c : Char) : Bool :=
  c.toNat ≤ 0x20 || c.toNat == 0x7F || "%#/:<>?@[\\]^|".toList.contains c

def isForbidden (c : Char) : Bool :=
  if c.toNat < 0x80 then isForbiddenAscii c else inRanges refusedRanges c

def isAscii (s : List Char) : Bool := s.all fun c => c.toNat < 0x80

/-- A mark may not start a label. -/
def startsWithMark (s : List Char) : Bool :=
  match s with
  | c :: _ => inRanges markRanges c
  | [] => false

/-- The most characters of a label that is written in Punycode. -/
def maxCharacters : Nat := 1000

def isLabel (s : List Char) : Bool :=
  !s.any isForbidden && !startsWithMark s && joinersStand [] s &&
    (isAscii s || s.length ≤ maxCharacters)

/-- What marks a label in Punycode. -/
def punycodeMark : List Char := ['x', 'n', '-', '-']

/-- The most characters behind the mark of Punycode. -/
def maxPunycode : Nat := 2 * maxCharacters

/-- The text that a label stands for. -/
def labelText? (s : List Char) : Option (List Char) :=
  if punycodeMark.isPrefixOf s then
    let code := s.drop 4
    if code.length ≤ maxPunycode then
      (Punycode.decode? code).filter fun text =>
        !isAscii text && domainText text == text && isLabel text
    else none
  else if isLabel s then some s
  else none

/-- A label in ASCII. -/
def labelCode (text : List Char) : List Char :=
  if isAscii text then text else punycodeMark ++ Punycode.encode text

/-- A domain in ASCII, label by label. -/
def domain? (s : List Char) : Option (List Char) := do
  let texts ← (splitWhere (· == '.') (domainText s)).mapM labelText?
  if runTogether texts then some (['.'].intercalate (texts.map labelCode)) else none

end TokenConsole.Url
