import TokenConsole.Json.Numeral
import TokenConsole.Text.Utf8

/-!
# JSON as written

Reads bytes as JSON, keeping what is written: numerals, the order of members and repeated keys. A
string that is no text (a lone surrogate, bytes that are not UTF-8) is read as `none`, so that a
reader that skips it does not mind.
-/
namespace TokenConsole.Json

inductive Raw where
  | null
  | bool (b : Bool)
  | number (n : Numeral)
  | string (s : Option String)
  | array (items : List Raw)
  | object (members : List (Option String × Raw))

namespace Raw

def isSpaceByte (b : UInt8) : Bool := b == 32 || b == 10 || b == 9 || b == 13

def skipSpace (s : List UInt8) : List UInt8 := s.dropWhile isSpaceByte

def hexValue? (b : UInt8) : Option Nat :=
  let n := b.toNat
  if 48 ≤ n ∧ n ≤ 57 then some (n - 48)
  else if 65 ≤ n ∧ n ≤ 70 then some (n - 55)
  else if 97 ≤ n ∧ n ≤ 102 then some (n - 87)
  else none

def hex4? (a b c d : UInt8) : Option Nat := do
  let a ← hexValue? a
  let b ← hexValue? b
  let c ← hexValue? c
  let d ← hexValue? d
  return ((a * 16 + b) * 16 + c) * 16 + d

/-- The byte that a one-letter escape stands for. -/
def escape? (b : UInt8) : Option UInt8 :=
  if b == 34 || b == 92 || b == 47 then some b
  else if b == 98 then some 8
  else if b == 102 then some 12
  else if b == 110 then some 10
  else if b == 114 then some 13
  else if b == 116 then some 9
  else none

/-- A piece of a string: a byte as it stands or an escaped UTF-16 unit. -/
inductive Piece where
  | byte (b : UInt8)
  | unit (n : Nat)

/-- The pieces of a string up to its closing quote, and what follows it. -/
def pieces : List UInt8 → Option (List Piece × List UInt8)
  | [] => none
  | 34 :: rest => some ([], rest)
  | 92 :: 117 :: a :: b :: c :: d :: rest => do
    let n ← hex4? a b c d
    let (ps, rest) ← pieces rest
    return (.unit n :: ps, rest)
  | 92 :: b :: rest => do
    let b ← escape? b
    let (ps, rest) ← pieces rest
    return (.byte b :: ps, rest)
  | b :: rest =>
    if b < 32 || b == 92 then none
    else do
      let (ps, rest) ← pieces rest
      return (.byte b :: ps, rest)

def isHighSurrogate (n : Nat) : Bool := 0xD800 ≤ n && n ≤ 0xDBFF

def isLowSurrogate (n : Nat) : Bool := 0xDC00 ≤ n && n ≤ 0xDFFF

/-- The bytes that pieces stand for; none if a surrogate stands alone. -/
def pieceBytes : List Piece → Option (List UInt8)
  | [] => some []
  | .byte b :: rest => (pieceBytes rest).map (b :: ·)
  | .unit h :: .unit l :: rest =>
    if isHighSurrogate h && isLowSurrogate l then
      (pieceBytes rest).map
        (String.utf8EncodeChar (Char.ofNat (0x10000 + (h - 0xD800) * 1024 + (l - 0xDC00))) ++ ·)
    else if isHighSurrogate h || isLowSurrogate h then none
    else (pieceBytes (.unit l :: rest)).map (String.utf8EncodeChar (Char.ofNat h) ++ ·)
  | .unit h :: rest =>
    if isHighSurrogate h || isLowSurrogate h then none
    else (pieceBytes rest).map (String.utf8EncodeChar (Char.ofNat h) ++ ·)

def pieceText (ps : List Piece) : Option String :=
  (pieceBytes ps).bind fun bytes => (Text.Utf8.decode bytes).toOption

def isDigitByte (b : UInt8) : Bool := 48 ≤ b && b ≤ 57

def takeDigits (s : List UInt8) : List Char × List UInt8 :=
  ((s.takeWhile isDigitByte).map fun b => Char.ofNat b.toNat, s.dropWhile isDigitByte)

/-- The fraction of a numeral, if a point follows. -/
def fraction? (s : List UInt8) : Option (Option (List Char) × List UInt8) :=
  match s with
  | 46 :: rest =>
    let (ds, rest) := takeDigits rest
    if ds = [] then none else some (some ds, rest)
  | _ => some (none, s)

/-- The exponent of a numeral, if its letter follows. -/
def exponent? (s : List UInt8) : Option (Option (Bool × List Char) × List UInt8) :=
  match s with
  | e :: rest =>
    if e == 101 || e == 69 then
      let (negative, rest) := match rest with
        | 43 :: r => (false, r)
        | 45 :: r => (true, r)
        | r => (false, r)
      let (ds, rest) := takeDigits rest
      if ds = [] then none else some (some (negative, ds), rest)
    else some (none, s)
  | [] => some (none, s)

/-- A numeral after its sign. Only a lone zero may start with a zero. -/
def numeral? (negative : Bool) (s : List UInt8) : Option (Numeral × List UInt8) := do
  let (ds, rest) := takeDigits s
  if ds = [] ∨ (ds.head? = some '0' ∧ ds ≠ ['0']) then none
  else
    let (fraction, rest) ← fraction? rest
    let (exponent, rest) ← exponent? rest
    return (⟨negative, ds, fraction, exponent⟩, rest)

mutual

/-- A value and what follows it. -/
def value : Nat → List UInt8 → Option (Raw × List UInt8)
  | 0, _ => none
  | fuel + 1, s =>
    match skipSpace s with
    | 110 :: 117 :: 108 :: 108 :: rest => some (.null, rest)
    | 116 :: 114 :: 117 :: 101 :: rest => some (.bool true, rest)
    | 102 :: 97 :: 108 :: 115 :: 101 :: rest => some (.bool false, rest)
    | 34 :: rest => (pieces rest).map fun (ps, rest) => (.string (pieceText ps), rest)
    | 45 :: rest => (numeral? true rest).map fun (n, rest) => (.number n, rest)
    | 91 :: rest =>
      match skipSpace rest with
      | 93 :: rest => some (.array [], rest)
      | rest => (items fuel rest).map fun (vs, rest) => (.array vs, rest)
    | 123 :: rest =>
      match skipSpace rest with
      | 125 :: rest => some (.object [], rest)
      | rest => (members fuel rest).map fun (ms, rest) => (.object ms, rest)
    | rest => (numeral? false rest).map fun (n, rest) => (.number n, rest)

/-- The items of an array, the first of which starts here, and what follows the array. -/
def items : Nat → List UInt8 → Option (List Raw × List UInt8)
  | 0, _ => none
  | fuel + 1, s => do
    let (v, rest) ← value fuel s
    match skipSpace rest with
    | 44 :: rest =>
      let (vs, rest) ← items fuel rest
      return (v :: vs, rest)
    | 93 :: rest => return ([v], rest)
    | _ => none

/-- The members of an object, the first of which starts here, and what follows the object. -/
def members : Nat → List UInt8 → Option (List (Option String × Raw) × List UInt8)
  | 0, _ => none
  | fuel + 1, s =>
    match skipSpace s with
    | 34 :: rest => do
      let (ps, rest) ← pieces rest
      match skipSpace rest with
      | 58 :: rest =>
        let (v, rest) ← value fuel rest
        let member := (pieceText ps, v)
        match skipSpace rest with
        | 44 :: rest =>
          let (ms, rest) ← members fuel rest
          return (member :: ms, rest)
        | 125 :: rest => return ([member], rest)
        | _ => none
      | _ => none
    | _ => none

end

/-- The value that the bytes hold, with nothing but white space around it. Each step of the reader
takes a byte or leads to one that does, which bounds the steps. -/
def read? (bytes : List UInt8) : Option Raw := do
  let (v, rest) ← value (2 * bytes.length + 2) bytes
  if skipSpace rest = [] then some v else none

end Raw

end TokenConsole.Json
