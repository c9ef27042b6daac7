/-!
# Colours

The colours of the console, with eight bits to a channel.
-/
namespace TokenConsole.Screen

structure Color where
  red : Nat
  green : Nat
  blue : Nat
  alpha : Nat
  deriving DecidableEq, Repr

namespace Color

def hexPair (n : Nat) : String :=
  let ds := Nat.toDigits 16 n
  String.ofList (if ds.length = 1 then '0' :: ds else ds)

/-- All four channels in hexadecimal. -/
def hex (c : Color) : String :=
  "#" ++ hexPair c.red ++ hexPair c.green ++ hexPair c.blue ++ hexPair c.alpha

def solid (red green blue : Nat) : Color := ⟨red, green, blue, 255⟩

def clear : Color := ⟨0, 0, 0, 0⟩

def white : Color := solid 0xFF 0xFF 0xFF

def night : Color := solid 0x14 0x14 0x14

def coal : Color := solid 0x20 0x20 0x20

def slate : Color := solid 0x27 0x27 0x27

def iron : Color := solid 0x3F 0x3F 0x3F

def lead : Color := solid 0x42 0x42 0x42

def ash : Color := solid 0x71 0x71 0x71

def silver : Color := solid 0xCC 0xCC 0xCC

def teal : Color := solid 0x1F 0xB5 0xA8

def darkTeal : Color := solid 0x12 0x5E 0x58

def crimson : Color := solid 0xE2 0x4B 0x4B

def darkRed : Color := solid 0x4A 0x1A 0x1A

def emerald : Color := solid 0x3D 0xC9 0x6B

def darkGreen : Color := solid 0x15 0x3D 0x23

/-- Black that lets a fifth of the light through. -/
def shade : Color := ⟨0, 0, 0, 204⟩

/-- The colour at two fifths of its strength. -/
def faded (c : Color) : Color := { c with alpha := 102 }

end Color

end TokenConsole.Screen
