import TokenConsole.Number.Radix
import TokenConsole.Number.Whole
import TokenConsole.Text.Split

/-!
# Numeric addresses

Hosts that are given by number. An address of four bytes may be written with fewer parts, the last
of which then fills the bytes that are left; each part is decimal, octal or hexadecimal. An address
of eight groups may leave out one run of zeros.
-/
namespace TokenConsole.Url

open TokenConsole.Number

/-- A part of an address of four bytes. A leading zero makes it octal, `0x` hexadecimal. -/
def addressPart? (s : List Char) : Option Nat :=
  let number (radix : Nat) (isDigit : Char → Bool) (ds : List Char) : Option Nat :=
    if ds.all isDigit then some (ofRadix radix ds) else none
  match s with
  | [] => none
  | '0' :: 'x' :: ds | '0' :: 'X' :: ds => number 16 isHexDigit ds
  | '0' :: d :: ds => number 8 isOctalDigit (d :: ds)
  | _ => number 10 Char.isDigit s

/-- The parts between dots; one dot may stand at the end. -/
def addressParts (s : List Char) : List (List Char) :=
  let parts := Text.splitWhere (· == '.') s
  if parts.length ≠ 1 ∧ parts.getLast? = some [] then parts.dropLast else parts

/-- A name that ends in a number is an address of four bytes or nothing. -/
def endsInNumber (s : List Char) : Bool :=
  match (addressParts s).getLast? with
  | none | some [] => false
  | some last => last.all Char.isDigit || (addressPart? last).isSome

/-- Joins parts to a number: each one but the last is a byte. -/
def joinParts (bytes : Nat) : List Nat → Option Nat
  | [] => none
  | [last] => if last < twoTo (8 * bytes) then some last else none
  | part :: rest =>
    if bytes = 0 ∨ 255 < part then none
    else (joinParts (bytes - 1) rest).map (part * twoTo (8 * (bytes - 1)) + ·)

def ipv4? (s : List Char) : Option Nat :=
  let parts := addressParts s
  if 4 < parts.length then none else (parts.mapM addressPart?).bind (joinParts 4)

def ipv4Text (n : Nat) : String :=
  ".".intercalate ([n / twoTo 24, n / twoTo 16 % 256, n / 256 % 256, n % 256].map toString)

/-- A byte of the dotted end of an address of groups: decimal, with no zero in front. -/
def dottedByte? (s : List Char) : Option Nat :=
  let n := ofRadix 10 s
  if s ≠ [] ∧ s.all Char.isDigit ∧ (s.length = 1 ∨ s.head? ≠ some '0') ∧ n ≤ 255 then some n
  else none

/-- The groups that one part writes: one, or two as four bytes at the end. -/
def groups? (isLast : Bool) (s : List Char) : Option (List Nat) :=
  if s ≠ [] ∧ s.length ≤ 4 ∧ s.all isHexDigit then some [ofRadix 16 s]
  else if isLast then
    match (Text.splitWhere (· == '.') s).mapM dottedByte? with
    | some [a, b, c, d] => some [256 * a + b, 256 * c + d]
    | _ => none
  else none

/-- The groups of parts between colons. -/
def groupsOf? (ends : Bool) : List (List Char) → Option (List Nat)
  | [] => some []
  | part :: rest => do
    let first ← groups? (ends && rest.isEmpty) part
    return first ++ (← groupsOf? ends rest)

/-- Cuts a text at its first two colons in a row. -/
def cutGap? : List Char → Option (List Char × List Char)
  | ':' :: ':' :: rest => some ([], rest)
  | c :: rest => (cutGap? rest).map fun (before, after) => (c :: before, after)
  | [] => none

def colonParts (s : List Char) : List (List Char) :=
  if s = [] then [] else Text.splitWhere (· == ':') s

/-- The eight groups of an address. Two colons in a row stand for one group of zero or more. -/
def ipv6? (s : List Char) : Option (List Nat) :=
  match cutGap? s with
  | none => (groupsOf? true (colonParts s)).filter (·.length = 8)
  | some (before, after) => do
    let first ← groupsOf? false (colonParts before)
    let last ← groupsOf? true (colonParts after)
    let given := first.length + last.length
    if 8 ≤ given then none else some (first ++ List.replicate (8 - given) 0 ++ last)

/-- Where the first of the longest runs of zeros starts, and its length. -/
def longestZeros : List Nat → Nat × Nat
  | [] => (0, 0)
  | g :: rest =>
    let here := ((g :: rest).takeWhile (· == 0)).length
    let (start, length) := longestZeros rest
    if length ≤ here then (0, here) else (start + 1, length)

/-- The shortest form: the longest run of two zeros or more is left out. -/
def ipv6Text (groups : List Nat) : String :=
  let text (gs : List Nat) : String :=
    ":".intercalate (gs.map fun g => String.ofList (Nat.toDigits 16 g))
  let (start, length) := longestZeros groups
  if length < 2 then text groups
  else text (groups.take start) ++ "::" ++ text (groups.drop (start + length))

end TokenConsole.Url
