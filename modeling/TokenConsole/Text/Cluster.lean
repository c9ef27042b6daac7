import TokenConsole.Text.ClusterTable
import TokenConsole.Text.CodeRange

/-!
# Grapheme clusters

What a user sees as one character: a letter with its marks, a syllable of jamo, a flag, a pictograph
with what is joined to it, a conjunct of consonants. A cluster ends at a boundary; whether there is
one between two characters depends on the characters of the cluster so far.
-/
namespace TokenConsole.Text

inductive ClusterClass where
  | carriageReturn
  | lineFeed
  | control
  | extend
  | joiner
  | regional
  | prepend
  | spacingMark
  | leading
  | vowel
  | trailing
  | openSyllable
  | closedSyllable
  | other
  deriving DecidableEq, Repr

/-- Vowels of a syllable: jamo, and those of one more script with the same structure. -/
def vowelRanges : List (Nat × Nat) :=
  [(0x1160, 0x11A7), (0xD7B0, 0xD7C6), (0x16D63, 0x16D63), (0x16D67, 0x16D6A)]

def clusterClass (c : Char) : ClusterClass :=
  let n := c.toNat
  if n == 13 then .carriageReturn
  else if n == 10 then .lineFeed
  else if inRanges controlRanges c then .control
  else if n < 0x300 then .other
  else if n == 0x200D then .joiner
  else if 0x1F1E6 ≤ n && n ≤ 0x1F1FF then .regional
  else if (0x1100 ≤ n && n ≤ 0x115F) || (0xA960 ≤ n && n ≤ 0xA97C) then .leading
  else if inRanges vowelRanges c then .vowel
  else if (0x11A8 ≤ n && n ≤ 0x11FF) || (0xD7CB ≤ n && n ≤ 0xD7FB) then .trailing
  else if 0xAC00 ≤ n && n ≤ 0xD7A3 then
    if (n - 0xAC00) % 28 == 0 then .openSyllable else .closedSyllable
  else if inRanges extendRanges c then .extend
  else if inRanges spacingMarkRanges c then .spacingMark
  else if inRanges prependRanges c then .prepend
  else .other

def isPictograph (c : Char) : Bool := inRanges pictographRanges c

def isBreaking : ClusterClass → Bool
  | .carriageReturn | .lineFeed | .control => true
  | _ => false

/-- The characters before, the nearest first, are a pictograph with marks and a joiner after it. -/
def endsInJoinedPictograph : List Char → Bool
  | c :: rest =>
    clusterClass c == .joiner &&
      match rest.dropWhile fun c => clusterClass c == .extend with
      | p :: _ => isPictograph p
      | [] => false
  | [] => false

/-- The characters before, the nearest first, are a consonant with marks after it, at least one of
which links it to the next consonant. -/
def endsInLinkedConsonant (before : List Char) : Bool :=
  let isMark (c : Char) : Bool :=
    inRanges conjunctExtendRanges c || inRanges conjunctLinkerRanges c
  let marks := before.takeWhile isMark
  marks.any (inRanges conjunctLinkerRanges) &&
    match before.dropWhile isMark with
    | c :: _ => inRanges conjunctConsonantRanges c
    | [] => false

/-- Whether a syllable of jamo goes on. -/
def joinsSyllable : ClusterClass → ClusterClass → Bool
  | .leading, b => b == .leading || b == .vowel || b == .openSyllable || b == .closedSyllable
  | .openSyllable, b | .vowel, b => b == .vowel || b == .trailing
  | .closedSyllable, b | .trailing, b => b == .trailing
  | _, _ => false

/-- Whether the character `c` starts a new cluster after the characters `before` of the last one,
the nearest first. -/
def startsCluster (before : List Char) (c : Char) : Bool :=
  match before with
  | [] => true
  | p :: _ =>
    let a := clusterClass p
    let b := clusterClass c
    if a == .carriageReturn && b == .lineFeed then false
    else if isBreaking a || isBreaking b then true
    else if joinsSyllable a b then false
    else if b == .extend || b == .joiner || b == .spacingMark || a == .prepend then false
    else if inRanges conjunctConsonantRanges c && endsInLinkedConsonant before then false
    else if isPictograph c && endsInJoinedPictograph before then false
    else if a == .regional && b == .regional then
      (before.takeWhile fun c => clusterClass c == .regional).length % 2 == 0
    else true

/-- The clusters of a text, given the one that it goes on with, reversed. -/
def clustersFrom (current : List Char) : List Char → List (List Char)
  | [] => if current = [] then [] else [current.reverse]
  | c :: rest =>
    if current ≠ [] ∧ startsCluster current c then current.reverse :: clustersFrom [c] rest
    else clustersFrom (c :: current) rest

def clusters (s : List Char) : List (List Char) := clustersFrom [] s

/-- The text without its last cluster. -/
def dropLastCluster (s : String) : String :=
  String.ofList (clusters s.toList).dropLast.flatten

end TokenConsole.Text
