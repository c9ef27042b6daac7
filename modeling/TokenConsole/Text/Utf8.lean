/-!
# UTF-8

Reading bytes as text. A sequence that no character starts with is a fault; its length is that of
the longest part that some character does start with.
-/
namespace TokenConsole.Text.Utf8

/-- Why bytes are no text: `length` bytes at `index` that start no character, or a character cut
off at the end. -/
inductive Fault where
  | invalid (length index : Nat)
  | incomplete (index : Nat)
  deriving DecidableEq, Repr

def Fault.message : Fault → String
  | .invalid length index => s!"invalid utf-8 sequence of {length} bytes from index {index}"
  | .incomplete index => s!"incomplete utf-8 byte sequence from index {index}"

/-- The first item of a byte sequence: a character of `size + 1` bytes, `size + 1` bytes that start
none, or a character cut off at the end. -/
inductive Item where
  | char (c : Char) (size : Nat)
  | invalid (size : Nat)
  | incomplete
  deriving DecidableEq, Repr

def isTail (b : UInt8) : Bool := 0x80 ≤ b && b ≤ 0xBF

/-- The second bytes that may follow a lead byte of three or four. -/
def isSecond (lead b : UInt8) : Bool :=
  if lead == 0xE0 then 0xA0 ≤ b && b ≤ 0xBF
  else if lead == 0xED then 0x80 ≤ b && b ≤ 0x9F
  else if lead == 0xF0 then 0x90 ≤ b && b ≤ 0xBF
  else if lead == 0xF4 then 0x80 ≤ b && b ≤ 0x8F
  else isTail b

def tailBits (b : UInt8) : Nat := b.toNat % 64

/-- The item that starts with the byte `a`. -/
def item (a : UInt8) (rest : List UInt8) : Item :=
  if a < 0x80 then .char (Char.ofNat a.toNat) 0
  else if 0xC2 ≤ a && a ≤ 0xDF then
    match rest with
    | [] => .incomplete
    | b :: _ =>
      if isTail b then .char (Char.ofNat (a.toNat % 32 * 64 + tailBits b)) 1 else .invalid 0
  else if 0xE0 ≤ a && a ≤ 0xEF then
    match rest with
    | [] => .incomplete
    | b :: r =>
      if !isSecond a b then .invalid 0
      else match r with
        | [] => .incomplete
        | c :: _ =>
          if isTail c then
            .char (Char.ofNat ((a.toNat % 16 * 64 + tailBits b) * 64 + tailBits c)) 2
          else .invalid 1
  else if 0xF0 ≤ a && a ≤ 0xF4 then
    match rest with
    | [] => .incomplete
    | b :: r =>
      if !isSecond a b then .invalid 0
      else match r with
        | [] => .incomplete
        | c :: r =>
          if !isTail c then .invalid 1
          else match r with
            | [] => .incomplete
            | d :: _ =>
              if isTail d then
                .char (Char.ofNat
                  (((a.toNat % 8 * 64 + tailBits b) * 64 + tailBits c) * 64 + tailBits d)) 3
              else .invalid 2
  else .invalid 0

/-- The characters of bytes that start at `index`, or the first fault. -/
def decodeFrom (index : Nat) : List UInt8 → Except Fault (List Char)
  | [] => .ok []
  | a :: rest =>
    match item a rest with
    | .char c size => (decodeFrom (index + size + 1) (rest.drop size)).map (c :: ·)
    | .invalid size => .error (.invalid (size + 1) index)
    | .incomplete => .error (.incomplete index)
  termination_by s => s.length
  decreasing_by simp only [List.length_drop, List.length_cons]; omega

def decode (bytes : List UInt8) : Except Fault String :=
  (decodeFrom 0 bytes).map String.ofList

/-- The characters of bytes, with U+FFFD for every fault. -/
def decodeLossyChars : List UInt8 → List Char
  | [] => []
  | a :: rest =>
    match item a rest with
    | .char c size => c :: decodeLossyChars (rest.drop size)
    | .invalid size => '\uFFFD' :: decodeLossyChars (rest.drop size)
    | .incomplete => ['\uFFFD']
  termination_by s => s.length
  decreasing_by all_goals simp only [List.length_drop, List.length_cons]; omega

def decodeLossy (bytes : List UInt8) : String := String.ofList (decodeLossyChars bytes)

/-- The bytes of a text. -/
def encode (s : String) : List UInt8 := s.toList.flatMap String.utf8EncodeChar

end TokenConsole.Text.Utf8
