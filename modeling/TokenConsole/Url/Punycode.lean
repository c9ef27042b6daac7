/-!
# Punycode

A way to write any text in letters, digits and hyphens. The ASCII characters stand first. The others
are inserted one by one in the order of their code points, and of their positions for equal ones;
each insertion is written as the number of steps from the one before it, counted through the places
of the text for one code point after the other.
-/
namespace TokenConsole.Url.Punycode

def digit (d : Nat) : Char := if d < 26 then Char.ofNat (d + 97) else Char.ofNat (d + 22)

def digitValue? (c : Char) : Option Nat :=
  if c.isLower then some (c.toNat - 97)
  else if c.isUpper then some (c.toNat - 65)
  else if c.isDigit then some (c.toNat - 22)
  else none

/-- The digits of a number end with the first one below the threshold of its place. -/
def threshold (bias place : Nat) : Nat := max 1 (min 26 (place - bias))

theorem threshold_bounds (bias place : Nat) :
    1 ≤ threshold bias place ∧ threshold bias place ≤ 26 := by
  simp only [threshold]; omega

/-- Divides until the number is small; counts the places. -/
def reduce (n place : Nat) : Nat × Nat :=
  if 455 < n then reduce (n / 35) (place + 36) else (n, place)
  termination_by n
  decreasing_by exact Nat.div_lt_self (by omega) (by omega)

/-- The bias after a number of `steps`, which is the first one or not, made `size` characters. -/
def adapt (steps size : Nat) (first : Bool) : Nat :=
  let n := if first then steps / 700 else steps / 2
  let (n, place) := reduce (n + n / size) 0
  place + 36 * n / (n + 38)

/-- The digits of a number, from a place on. -/
def digits (bias place n : Nat) : List Char :=
  let t := threshold bias place
  if n < t then [digit n]
  else digit (t + (n - t) % (36 - t)) :: digits bias (place + 36) ((n - t) / (36 - t))
  termination_by n
  decreasing_by
    have := threshold_bounds bias place
    exact Nat.lt_of_le_of_lt (Nat.div_le_self _ _) (by omega)

/-- A text under construction: the last code point and the place after it, how many characters
there are, and the bias. -/
structure Progress where
  code : Nat
  place : Nat
  size : Nat
  bias : Nat

/-- Writes the insertion of a code point at a place. -/
def insertion (ascii : Nat) (p : Progress) (code place : Nat) : List Char × Progress :=
  let steps := (code - p.code) * (p.size + 1) + place - p.place
  (digits p.bias 36 steps,
    ⟨code, place + 1, p.size + 1, adapt steps (p.size + 1) (p.size == ascii)⟩)

/-- Writes insertions in their order, each with its place among the characters before it. -/
def insertions (ascii : Nat) (p : Progress) : List (Nat × Nat) → List Char
  | [] => []
  | (code, place) :: rest =>
    let (ds, p) := insertion ascii p code place
    ds ++ insertions ascii p rest

/-- The characters that have to be inserted, each with the number of characters in front of it that
are there by then. -/
def pending (s : List Char) : List (Nat × Nat) :=
  let others := s.zipIdx.filter fun (c, _) => 0x80 ≤ c.toNat
  (others.mergeSort fun a b => a.1.toNat ≤ b.1.toNat).map fun (c, i) =>
    (c.toNat, (s.take i).countP fun d => d.toNat ≤ c.toNat)

def encode (s : List Char) : List Char :=
  let ascii := s.filter fun c => c.toNat < 0x80
  let start := if ascii = [] then [] else ascii ++ ['-']
  start ++ insertions ascii.length ⟨0x80, 0, ascii.length, 72⟩ (pending s)

/-- Reads one number: its value times `weight`, and what is left. -/
def number? (bias place weight : Nat) : List Char → Option (Nat × List Char)
  | [] => none
  | c :: rest =>
    match digitValue? c with
    | none => none
    | some d =>
      let t := threshold bias place
      if d < t then some (d * weight, rest)
      else (number? bias (place + 36) (weight * (36 - t)) rest).map fun (n, rest) =>
        (d * weight + n, rest)

theorem length_number? {bias place weight : Nat} {s : List Char} {r : Nat × List Char}
    (h : number? bias place weight s = some r) : r.2.length < s.length := by
  induction s generalizing place weight r with
  | nil => simp [number?] at h
  | cons c rest ih =>
    simp only [number?] at h
    split at h
    · cases h
    · split at h
      · cases h; exact Nat.lt_succ_self _
      · obtain ⟨p, hp, rfl⟩ := Option.map_eq_some_iff.1 h
        have shorter : p.2.length < rest.length := ih hp
        exact Nat.lt_succ_of_lt shorter

/-- Inserts what the numbers say. -/
def insertAll? (ascii : Nat) (p : Progress) (text : List Char) (s : List Char) :
    Option (List Char) :=
  if s = [] then some text
  else
    match _h : number? p.bias 36 1 s with
    | none => none
    | some (steps, rest) =>
      let reached := p.place + steps
      let code := p.code + reached / (p.size + 1)
      let place := reached % (p.size + 1)
      if code.isValidChar then
        insertAll? ascii ⟨code, place + 1, p.size + 1, adapt steps (p.size + 1) (p.size == ascii)⟩
          (text.insertIdx place (Char.ofNat code)) rest
      else none
  termination_by s.length
  decreasing_by exact length_number? _h

/-- Reads what `encode` writes. There is no hyphen where nothing stands before it. -/
def decode? (s : List Char) : Option (List Char) :=
  let ending := (s.reverse.takeWhile (· != '-')).reverse
  let ascii := (s.take (s.length - ending.length)).dropLast
  if s.head? = some '-' ∧ ascii = [] then none
  else insertAll? ascii.length ⟨0x80, 0, ascii.length, 72⟩ ascii ending

end TokenConsole.Url.Punycode
