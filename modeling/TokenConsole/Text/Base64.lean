/-!
# Base64

The standard alphabet with padding. Decoding accepts only what encoding writes: padding is
required and the bits that no byte needs must be zero.
-/
namespace TokenConsole.Text.Base64

/-- Why a text is not in the encoding. Offsets count bytes. -/
inductive Fault where
  | invalidByte (offset : Nat) (byte : UInt8)
  | invalidLength (length : Nat)
  | invalidLastSymbol (offset : Nat) (byte : UInt8)
  | invalidPadding
  deriving DecidableEq, Repr

def Fault.message : Fault → String
  | .invalidByte offset byte => s!"Invalid symbol {byte.toNat}, offset {offset}."
  | .invalidLength length => s!"Invalid input length: {length}"
  | .invalidLastSymbol offset byte => s!"Invalid last symbol {byte.toNat}, offset {offset}."
  | .invalidPadding => "Invalid padding"

/-- The symbol of a number below 64. -/
def symbol (n : Nat) : UInt8 :=
  if n < 26 then UInt8.ofNat (n + 65)
  else if n < 52 then UInt8.ofNat (n + 71)
  else if n < 62 then UInt8.ofNat (n - 4)
  else if n = 62 then 43
  else 47

/-- The number that a symbol stands for. -/
def value? (b : UInt8) : Option Nat :=
  let n := b.toNat
  if 65 ≤ n ∧ n ≤ 90 then some (n - 65)
  else if 97 ≤ n ∧ n ≤ 122 then some (n - 71)
  else if 48 ≤ n ∧ n ≤ 57 then some (n + 4)
  else if n = 43 then some 62
  else if n = 47 then some 63
  else none

/-- The padding symbol, `=`. -/
def pad : UInt8 := 61

/-- Three bytes become four symbols; a shorter end is padded. -/
def encode : List UInt8 → List UInt8
  | [] => []
  | [a] => [symbol (a.toNat / 4), symbol (a.toNat % 4 * 16), pad, pad]
  | [a, b] =>
    [symbol (a.toNat / 4), symbol (a.toNat % 4 * 16 + b.toNat / 16), symbol (b.toNat % 16 * 4), pad]
  | a :: b :: c :: rest =>
    symbol (a.toNat / 4) :: symbol (a.toNat % 4 * 16 + b.toNat / 16) ::
      symbol (b.toNat % 16 * 4 + c.toNat / 64) :: symbol (c.toNat % 64) :: encode rest

/-- The values of symbols that start at `offset`, or the first that is none. -/
def values (offset : Nat) : List UInt8 → Except Fault (List Nat)
  | [] => .ok []
  | b :: rest =>
    match value? b with
    | none => .error (.invalidByte offset b)
    | some v => (values (offset + 1) rest).map (v :: ·)

/-- The whole bytes in a group of up to four values. -/
def groupBytes : List Nat → List UInt8
  | [p, q] => [UInt8.ofNat (p * 4 + q / 16)]
  | [p, q, r] => [UInt8.ofNat (p * 4 + q / 16), UInt8.ofNat (q % 16 * 16 + r / 4)]
  | [p, q, r, s] =>
    [UInt8.ofNat (p * 4 + q / 16), UInt8.ofNat (q % 16 * 16 + r / 4), UInt8.ofNat (r % 4 * 64 + s)]
  | _ => []

/-- Bits of a group's last value that belong to no byte. -/
def strayBits : List Nat → Nat
  | [_, q] => q % 16
  | [_, _, r] => r % 4
  | _ => 0

/-- Symbols and padding of the last group: padding stands after two symbols at the earliest, and
nothing follows it. -/
def lastValues (offset : Nat) (group : List UInt8) : Except Fault (List Nat) :=
  let symbols := group.takeWhile (· != pad)
  let padding := group.dropWhile (· != pad)
  match values offset symbols with
  | .error fault => .error fault
  | .ok vs =>
    if padding ≠ [] ∧ (symbols.length < 2 ∨ padding.any (· != pad)) then
      .error (.invalidByte (offset + symbols.length) pad)
    else .ok vs

/-- The bytes of the last group, of at most four symbols. -/
def decodeLast (offset : Nat) (group : List UInt8) : Except Fault (List UInt8) :=
  match lastValues offset group with
  | .error fault => .error fault
  | .ok vs =>
    if group = [] then .ok []
    else if vs.length < 2 then .error (.invalidLength (offset + vs.length))
    else if group.length % 4 ≠ 0 then .error .invalidPadding
    else if strayBits vs ≠ 0 then
      .error (.invalidLastSymbol (offset + vs.length - 1) (group.getD (vs.length - 1) pad))
    else .ok (groupBytes vs)

/-- The bytes of groups that start at `offset`. Padding is looked for in the last one only. -/
def decodeGroups (offset : Nat) : List UInt8 → Except Fault (List UInt8)
  | a :: b :: c :: d :: e :: rest =>
    match values offset [a, b, c, d] with
    | .error fault => .error fault
    | .ok vs => (decodeGroups (offset + 4) (e :: rest)).map (groupBytes vs ++ ·)
  | group => decodeLast offset group

/-- A single symbol left over at the end that is none is reported before all else. -/
def decode (input : List UInt8) : Except Fault (List UInt8) :=
  let last := input.getLastD pad
  if input.length % 4 = 1 ∧ last ≠ pad ∧ value? last = none then
    .error (.invalidByte (input.length - 1) last)
  else decodeGroups 0 input

/-- The encoding of bytes as text. -/
def encodeText (bytes : List UInt8) : String :=
  String.ofList ((encode bytes).map fun b => Char.ofNat b.toNat)

end TokenConsole.Text.Base64
