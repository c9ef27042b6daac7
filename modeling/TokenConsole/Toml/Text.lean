import TokenConsole.Toml.Scalar

/-!
# TOML texts

Quoted texts and the characters between tokens. Each reader gives what it has read and what
follows it.
-/
namespace TokenConsole.Toml

open TokenConsole.Number (isHexDigit ofRadix)

/-- Characters that may stand in a comment or a text as they are. -/
def isPlain (c : Char) : Bool := c == '\t' || (32 ≤ c.toNat && c.toNat != 127)

def isBlankChar (c : Char) : Bool := c == ' ' || c == '\t'

def skipBlanks (s : List Char) : List Char := s.dropWhile isBlankChar

/-- What follows the end of a line. -/
def lineEnd? : List Char → Option (List Char)
  | '\n' :: rest => some rest
  | '\r' :: '\n' :: rest => some rest
  | _ => none

/-- What follows a comment, if there is one. -/
def skipComment (s : List Char) : List Char :=
  match s with
  | '#' :: rest => rest.dropWhile isPlain
  | _ => s

/-- What follows blanks, comments and line ends. Fuel bounds the lines. -/
def skipLines : Nat → List Char → List Char
  | 0, s => s
  | fuel + 1, s =>
    let s := skipComment (skipBlanks s)
    match lineEnd? s with
    | some rest => skipLines fuel rest
    | none => s

/-- A character given by hexadecimal digits. -/
def coded? (count : Nat) (s : List Char) : Option (Char × List Char) :=
  let ds := s.take count
  let n := ofRadix 16 ds
  if ds.length = count ∧ ds.all isHexDigit ∧ n.isValidChar then
    some (Char.ofNat n, s.drop count)
  else none

/-- The character of an escape, after its backslash. -/
def escape? : List Char → Option (Char × List Char)
  | 'b' :: rest => some ('\x08', rest)
  | 't' :: rest => some ('\t', rest)
  | 'n' :: rest => some ('\n', rest)
  | 'f' :: rest => some ('\x0c', rest)
  | 'r' :: rest => some ('\r', rest)
  | 'e' :: rest => some ('\x1b', rest)
  | '"' :: rest => some ('"', rest)
  | '\\' :: rest => some ('\\', rest)
  | 'x' :: rest => coded? 2 rest
  | 'u' :: rest => coded? 4 rest
  | 'U' :: rest => coded? 8 rest
  | _ => none

/-- A text on one line, up to its closing quote; fuel bounds its characters. -/
def basicText : Nat → List Char → Option (List Char × List Char)
  | 0, _ => none
  | fuel + 1, s =>
    match s with
    | '"' :: rest => some ([], rest)
    | '\\' :: rest => do
      let (c, rest) ← escape? rest
      let (cs, rest) ← basicText fuel rest
      return (c :: cs, rest)
    | c :: rest =>
      if isPlain c then do
        let (cs, rest) ← basicText fuel rest
        return (c :: cs, rest)
      else none
    | [] => none

def literalText (s : List Char) : Option (List Char × List Char) :=
  match s.dropWhile fun c => c != '\'' && isPlain c with
  | '\'' :: rest => some (s.takeWhile (· != '\''), rest)
  | _ => none

/-- White space and line ends. -/
def isGap (c : Char) : Bool := isBlankChar c || c == '\n' || c == '\r'

/-- What follows white space and line ends. -/
def skipGaps : List Char → List Char
  | '\r' :: '\n' :: rest => skipGaps rest
  | c :: rest => if isBlankChar c || c == '\n' then skipGaps rest else c :: rest
  | [] => []

/-- The end of a text over several lines: three quotes, before which up to two more belong to the
text. -/
def closing? (quote : Char) (s : List Char) : Option (List Char × List Char) :=
  let count := (s.takeWhile (· == quote)).length
  if count < 3 then none
  else
    let extra := min (count - 3) 2
    some (List.replicate extra quote, s.drop (extra + 3))

/-- A text over several lines, up to its closing quotes. Its line ends stay as they are written. -/
def longText (quote : Char) (escapes : Bool) : Nat → List Char → Option (List Char × List Char)
  | 0, _ => none
  | fuel + 1, s =>
    let going (c : Char) (rest : List Char) : Option (List Char × List Char) := do
      let (cs, rest) ← longText quote escapes fuel rest
      return (c :: cs, rest)
    match closing? quote s with
    | some r => some r
    | none =>
      match s with
      | [] => none
      | '\r' :: '\n' :: rest => do
        let (cs, rest) ← going '\n' rest
        return ('\r' :: cs, rest)
      | c :: rest =>
        if escapes && c == '\\' then
          match lineEnd? (skipBlanks rest) with
          | some rest => longText quote escapes fuel (skipGaps rest)
          | none => do
            let (c, rest) ← escape? rest
            going c rest
        else if isPlain c || c == '\n' then going c rest
        else none

/-- A line end right after the opening quotes does not belong to the text. -/
def longBody (quote : Char) (escapes : Bool) (s : List Char) : Option (List Char × List Char) :=
  longText quote escapes (s.length + 1) ((lineEnd? s).getD s)

/-- A quoted text, on one line or over several. -/
def quotedText? (s : List Char) : Option (List Char × List Char) :=
  match s with
  | '"' :: '"' :: '"' :: rest => longBody '"' true rest
  | '\'' :: '\'' :: '\'' :: rest => longBody '\'' false rest
  | '"' :: rest => basicText (rest.length + 1) rest
  | '\'' :: rest => literalText rest
  | _ => none

def isBareKeyChar (c : Char) : Bool := c.isAlphanum || c == '_' || c == '-'

/-- One part of a key. -/
def keyPart? (s : List Char) : Option (String × List Char) :=
  match s with
  | '"' :: rest => (basicText (rest.length + 1) rest).map fun (k, r) => (String.ofList k, r)
  | '\'' :: rest => (literalText rest).map fun (k, r) => (String.ofList k, r)
  | s =>
    let k := s.takeWhile isBareKeyChar
    if k = [] then none else some (String.ofList k, s.drop k.length)

/-- A key: parts with dots between them. -/
def key? : Nat → List Char → Option (List String × List Char)
  | 0, _ => none
  | fuel + 1, s => do
    let (k, rest) ← keyPart? (skipBlanks s)
    let rest := skipBlanks rest
    match rest with
    | '.' :: rest =>
      let (ks, rest) ← key? fuel rest
      return (k :: ks, rest)
    | rest => return ([k], rest)

/-- How many parts a key may have. -/
def maxParts : Nat := 80

/-- A key that is not too long. -/
def path? (s : List Char) : Option (List String × List Char) :=
  (key? (s.length + 1) s).filter fun (ks, _) => ks.length ≤ maxParts

end TokenConsole.Toml
