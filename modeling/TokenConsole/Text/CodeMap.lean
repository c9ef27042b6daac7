import TokenConsole.Number.Radix
import TokenConsole.Text.Split

/-!
# Tables of characters

A table that gives a text for each of some characters. It is written down in lines of runs with
semicolons between them. The run `C0=41.300,41.301` says that the code point C0 has the text of the
code points 41 and 300, and the one after it that of 41 and 301.
-/
namespace TokenConsole.Text

abbrev CodeMap := List (Nat × List Char)

namespace CodeMap

open TokenConsole.Number (ofRadix)

def readText (s : List Char) : List Char :=
  (splitWhere (· == '.') s).map fun ds => Char.ofNat (ofRadix 16 ds)

/-- The entries of one run. -/
def readRun (s : List Char) : CodeMap :=
  match cutWhere? (· == '=') s with
  | some (start, texts) =>
    (splitWhere (· == ',') texts).zipIdx.map fun (text, i) => (ofRadix 16 start + i, readText text)
  | none => []

def read (lines : List String) : CodeMap :=
  lines.flatMap fun line => (splitWhere (· == ';') line.toList).flatMap readRun

def get? (m : CodeMap) (c : Char) : Option (List Char) := m.lookup c.toNat

end CodeMap

end TokenConsole.Text
