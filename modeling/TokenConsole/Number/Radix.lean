/-!
# Digits of other radices

Binary, octal and hexadecimal digits, and the numbers that they write.
-/
namespace TokenConsole.Number

/-- The value of a hexadecimal digit. -/
def hexDigitValue (c : Char) : Nat :=
  if c.isDigit then c.toNat - 48 else if 'a' ≤ c then c.toNat - 87 else c.toNat - 55

def isHexDigit (c : Char) : Bool :=
  c.isDigit || ('a' ≤ c && c ≤ 'f') || ('A' ≤ c && c ≤ 'F')

def isOctalDigit (c : Char) : Bool := '0' ≤ c && c ≤ '7'

def isBinaryDigit (c : Char) : Bool := c == '0' || c == '1'

/-- The value of a string of digits. -/
def ofRadix (radix : Nat) (ds : List Char) : Nat :=
  ds.foldl (fun n d => radix * n + hexDigitValue d) 0

/-- The hexadecimal digit of a number below 16, a small letter from ten on. -/
def hexDigit (n : Nat) : Char := if n < 10 then Char.ofNat (n + 48) else Char.ofNat (n + 87)

end TokenConsole.Number
