import TokenConsole.Text.CodeRange
import TokenConsole.Text.CombiningTable
import TokenConsole.Text.DecompositionTable

/-!
# The composed form

The same text can be written with a letter that has a mark, or with a letter and a mark after it.
Its composed form has one character wherever there is one: the text is decomposed, the marks of each
letter are put in order, and what composes is composed.
-/
namespace TokenConsole.Text

/-- The class of a mark; it is zero for what does not combine with the character before it. -/
def combiningClass (c : Char) : Nat :=
  match combiningRanges.find? fun r => r.1 ≤ c.toNat && c.toNat ≤ r.2.1 with
  | some (_, _, n) => n
  | none => 0

/-! ## Syllables -/

/-- The parts of a syllable of Hangul: a leading jamo, a vowel and perhaps a trailing jamo. -/
def jamoOf? (c : Char) : Option (List Char) :=
  let n := c.toNat - 0xAC00
  if 0xAC00 ≤ c.toNat && c.toNat ≤ 0xD7A3 then
    let trailing := if n % 28 = 0 then [] else [Char.ofNat (0x11A7 + n % 28)]
    some (Char.ofNat (0x1100 + n / 588) :: Char.ofNat (0x1161 + n / 28 % 21) :: trailing)
  else none

/-- The syllable that a jamo completes. -/
def syllable? (a b : Char) : Option Char :=
  let leading := a.toNat - 0x1100
  let vowel := b.toNat - 0x1161
  let start := a.toNat - 0xAC00
  let trailing := b.toNat - 0x11A7
  if 0x1100 ≤ a.toNat && leading < 19 && 0x1161 ≤ b.toNat && vowel < 21 then
    some (Char.ofNat (0xAC00 + (leading * 21 + vowel) * 28))
  else if 0xAC00 ≤ a.toNat && a.toNat ≤ 0xD7A3 && start % 28 == 0 && 0x11A7 < b.toNat &&
      trailing < 28 then
    some (Char.ofNat (a.toNat + trailing))
  else none

/-! ## Parts and wholes -/

/-- What a character consists of. -/
def decompose (c : Char) : List Char :=
  if c.toNat < 0xC0 then [c]
  else (jamoOf? c).getD ((decompositions.get? c).getD [c])

/-- The character that a mark turns another one into. -/
def compose? (a b : Char) : Option Char :=
  match syllable? a b with
  | some c => some c
  | none =>
    let parts := decompose a ++ [b]
    (decompositions.find? fun (n, text) =>
      text == parts && !inRanges uncomposedRanges (Char.ofNat n)).map fun (n, _) => Char.ofNat n

/-- Puts a character in front of a text whose marks are in order. -/
def insertMark (c : Char) : List Char → List Char
  | [] => [c]
  | d :: rest =>
    if 0 < combiningClass d ∧ combiningClass d < combiningClass c then d :: insertMark c rest
    else c :: d :: rest

/-- The marks after each letter in the order of their classes. -/
def orderMarks : List Char → List Char
  | [] => []
  | c :: rest => insertMark c (orderMarks rest)

/-- Composes a character with what follows it. The marks between, the nearest first, did not
compose with it; one of them blocks a mark of the same class or a lower one. -/
def composeFrom (c : Char) (between : List Char) : List Char → List Char
  | [] => c :: between.reverse
  | d :: rest =>
    let isBlocked := match between with
      | [] => false
      | m :: _ => combiningClass d ≤ combiningClass m
    match if isBlocked then none else compose? c d with
    | some whole => composeFrom whole between rest
    | none =>
      if combiningClass d = 0 then c :: between.reverse ++ composeFrom d [] rest
      else composeFrom c (d :: between) rest

def composed (s : List Char) : List Char :=
  match orderMarks (s.flatMap decompose) with
  | [] => []
  | c :: rest => composeFrom c [] rest

end TokenConsole.Text
