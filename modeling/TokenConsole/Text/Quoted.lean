import TokenConsole.Text.Ignorable
import TokenConsole.Text.QuotedTable

/-!
# Quoted text

A text between quotes, for a message. Quotes, backslashes and line ends are escaped by a letter;
what has no shape of its own, is not drawn, or attaches to the character before it, by its code
point.
-/
namespace TokenConsole.Text

def needsCode (c : Char) : Bool :=
  if c.toNat < 127 then c.toNat < 32
  else inRanges shapelessRanges c || inRanges attachingRanges c || isIgnorable c

def quotedChar (c : Char) : List Char :=
  if c == '"' || c == '\\' then ['\\', c]
  else if c.toNat == 0 then ['\\', '0']
  else if c == '\t' then ['\\', 't']
  else if c == '\r' then ['\\', 'r']
  else if c == '\n' then ['\\', 'n']
  else if needsCode c then ['\\', 'u', '\x7b'] ++ Nat.toDigits 16 c.toNat ++ ['\x7d']
  else [c]

def quoted (s : String) : String :=
  String.ofList ('"' :: (s.toList.flatMap quotedChar ++ ['"']))

end TokenConsole.Text
