import TokenConsole.CommandLine
import TokenConsole.Proofs.Except

/-!
# The grammar of the command line

Which words are flags and which are values depends on all the words before them. A command line is
accepted if and only if it is what some arguments are written as; otherwise the first place where it
departs from that decides which fault is reported.
-/
namespace TokenConsole.CommandLine

/-- The flags that take a value. -/
def IsFlag (word : String) : Prop := word = datadirFlag ∨ word = apiUrlFlag

instance (word : String) : Decidable (IsFlag word) :=
  inferInstanceAs (Decidable (word = datadirFlag ∨ word = apiUrlFlag))

/-- The first arguments that ask for a text instead of a run. -/
def textFlags : List String := ["-v", "--version", "-h", "--help"]

def Arg.words : Arg → List String
  | .datadir path => [datadirFlag, path]
  | .apiUrl url => [apiUrlFlag, url]

/-- The words that arguments are written as. -/
def written (args : List Arg) : List String := args.flatMap Arg.words

/-- The value of the last argument of a kind, if there is one. -/
def IsLast (kind : String → Arg) (args : List Arg) : Option String → Prop
  | some value => ∃ before after, args = before ++ kind value :: after ∧ ∀ v, kind v ∉ after
  | none => ∀ v, kind v ∉ args

/-! ### Single arguments -/

theorem argOf?_eq_some_iff {flag value : String} {arg : Arg} :
    argOf? flag value = some arg ↔ arg.words = [flag, value] := by
  have hdistinct : datadirFlag ≠ apiUrlFlag := by decide
  unfold argOf?
  constructor
  · intro h
    split at h
    · next hflag =>
      cases h
      rw [hflag, Arg.words]
    split at h
    · next hflag =>
      cases h
      rw [hflag, Arg.words]
    · cases h
  · intro h
    cases arg with
    | datadir path =>
      cases h
      exact if_pos rfl
    | apiUrl url =>
      cases h
      rw [if_neg hdistinct.symm, if_pos rfl]

theorem argOf?_eq_none_iff {flag value : String} :
    argOf? flag value = none ↔ ¬IsFlag flag := by
  unfold argOf? IsFlag
  split
  · next h => exact iff_of_false nofun fun hnone => hnone (.inl h)
  split
  · next h => exact iff_of_false nofun fun hnone => hnone (.inr h)
  · next h h' => exact iff_of_true rfl fun hflag => hflag.elim h h'

theorem parse_words (arg : Arg) (rest : List String) :
    parse (arg.words ++ rest) = (parse rest).map (arg :: ·) := by
  have hread : ∀ flag value, arg.words = [flag, value] →
      parse (arg.words ++ rest) = (parse rest).map (arg :: ·) := by
    intro flag value hwords
    rw [hwords, List.cons_append, List.cons_append, List.nil_append, parse,
      argOf?_eq_some_iff.2 hwords]
  cases arg with
  | datadir path => exact hread _ _ rfl
  | apiUrl url => exact hread _ _ rfl

/-! ### Sequences -/

/-- Arguments at the front are read off, whatever follows them. -/
theorem parse_append (args : List Arg) (rest : List String) :
    parse (written args ++ rest) = (parse rest).map (args ++ ·) := by
  induction args with
  | nil => exact (map_self (parse rest)).symm
  | cons arg args ih =>
    rw [written, List.flatMap_cons, List.append_assoc, parse_words, ← written, ih]
    cases parse rest <;> rfl

theorem parse_written (args : List Arg) : parse (written args) = .ok args := by
  have hall := parse_append args []
  rw [List.append_nil, parse] at hall
  exact hall.trans (congrArg Except.ok (List.append_nil args))

theorem parse_singleton (word : String) : parse [word] =
    if IsFlag word then .error (.missingValue word) else .error (.unknown word) := rfl

theorem parse_dangling {flag : String} (h : IsFlag flag) (args : List Arg) :
    parse (written args ++ [flag]) = .error (.missingValue flag) := by
  rw [parse_append, parse_singleton, if_pos h]
  rfl

theorem parse_stray {word : String} (h : ¬IsFlag word) (args : List Arg) (rest : List String) :
    parse (written args ++ word :: rest) = .error (.unknown word) := by
  rw [parse_append]
  cases rest with
  | nil =>
    rw [parse_singleton, if_neg h]
    rfl
  | cons value rest =>
    rw [parse, argOf?_eq_none_iff.2 h]
    rfl

/-- Words are written arguments, or depart from that at a flag without a value or at another word
in the place of a flag. -/
inductive Reads : List String → Except Fault (List Arg) → Prop
  | written (args : List Arg) : Reads (written args) (.ok args)
  | dangling (args : List Arg) {flag : String} (h : IsFlag flag) :
      Reads (CommandLine.written args ++ [flag]) (.error (.missingValue flag))
  | stray (args : List Arg) {word : String} (h : ¬IsFlag word) (rest : List String) :
      Reads (CommandLine.written args ++ word :: rest) (.error (.unknown word))

theorem Reads.cons {words : List String} {result : Except Fault (List Arg)}
    (h : Reads words result) (arg : Arg) : Reads (arg.words ++ words) (result.map (arg :: ·)) := by
  cases h with
  | written args => exact .written (arg :: args)
  | dangling args h =>
    rw [← List.append_assoc]
    exact .dangling (arg :: args) h
  | stray args h rest =>
    rw [← List.append_assoc]
    exact .stray (arg :: args) h rest

theorem parse_eq_iff {words : List String} {result : Except Fault (List Arg)} :
    parse words = result ↔ Reads words result := by
  constructor
  · rintro rfl
    induction words using parse.induct with
    | case1 => exact .written []
    | case2 flag h =>
      rw [parse, if_pos h]
      exact .dangling [] h
    | case3 flag h =>
      rw [parse, if_neg h]
      exact .stray [] h []
    | case4 flag value rest h =>
      rw [parse, h]
      exact .stray [] (argOf?_eq_none_iff.1 h) (value :: rest)
    | case5 flag value rest arg h ih =>
      have hread := ih.cons arg
      rw [← parse_words, argOf?_eq_some_iff.1 h] at hread
      exact hread
  · intro h
    cases h with
    | written args => exact parse_written args
    | dangling args h => exact parse_dangling h args
    | stray args h rest => exact parse_stray h args rest

theorem parse_eq_ok_iff {words : List String} {args : List Arg} :
    parse words = .ok args ↔ words = written args := by
  rw [parse_eq_iff]
  constructor
  · rintro ⟨⟩
    rfl
  · rintro rfl
    exact .written args

theorem parse_eq_missingValue_iff {words : List String} {flag : String} :
    parse words = .error (.missingValue flag) ↔
      IsFlag flag ∧ ∃ args, words = written args ++ [flag] := by
  rw [parse_eq_iff]
  constructor
  · rintro ⟨⟩
    exact ⟨‹_›, _, rfl⟩
  · rintro ⟨h, args, rfl⟩
    exact .dangling args h

theorem parse_eq_unknown_iff {words : List String} {word : String} :
    parse words = .error (.unknown word) ↔
      ¬IsFlag word ∧ ∃ args rest, words = written args ++ word :: rest := by
  rw [parse_eq_iff]
  constructor
  · rintro ⟨⟩
    exact ⟨‹_›, _, _, rfl⟩
  · rintro ⟨h, args, rest, rfl⟩
    exact .stray args h rest

/-! ### Last values -/

theorem isLast_getLast? {kind : String → Arg} {pick : Arg → Option String}
    (hpick : ∀ arg value, pick arg = some value ↔ arg = kind value) (args : List Arg) :
    IsLast kind args (args.filterMap pick).getLast? := by
  have hpicked : ∀ value, pick (kind value) = some value := fun value => (hpick _ value).2 rfl
  cases hlast : (args.filterMap pick).getLast? with
  | none =>
    intro value hmem
    have hnone := List.filterMap_eq_nil_iff.1 (List.getLast?_eq_none_iff.1 hlast) _ hmem
    rw [hpicked] at hnone
    cases hnone
  | some value =>
    rw [List.getLast?_filterMap, List.findSome?_eq_some_iff] at hlast
    obtain ⟨after, arg, before, hargs, harg, hafter⟩ := hlast
    obtain rfl := (hpick arg value).1 harg
    refine ⟨before.reverse, after.reverse, ?_, fun v hmem => ?_⟩
    · rw [← args.reverse_reverse, hargs]
      simp
    · have hnone := hafter _ (List.mem_reverse.1 hmem)
      rw [hpicked] at hnone
      cases hnone

theorem isLast_lastDatadir? (args : List Arg) : IsLast .datadir args (lastDatadir? args) :=
  isLast_getLast? (by rintro (path | url) value <;> simp) args

theorem isLast_lastApiUrl? (args : List Arg) : IsLast .apiUrl args (lastApiUrl? args) :=
  isLast_getLast? (by rintro (path | url) value <;> simp) args

/-! ### Whole command lines -/

/-- What becomes of the words behind the name of the program. -/
def requestOf : Except Fault (List Arg) → Request
  | .ok args => .run args
  | .error fault => .refuse fault

theorem requestOf_eq_run_iff {result : Except Fault (List Arg)} {args : List Arg} :
    requestOf result = .run args ↔ result = .ok args := by
  cases result <;> simp [requestOf]

theorem requestOf_eq_refuse_iff {result : Except Fault (List Arg)} {fault : Fault} :
    requestOf result = .refuse fault ↔ result = .error fault := by
  cases result <;> simp [requestOf]

/-- Flags are no such arguments, so what is written is never taken for one. -/
theorem head?_written (args : List Arg) : ∀ word ∈ (written args)[0]?, word ∉ textFlags := by
  rintro word hword
  cases args with
  | nil => cases hword
  | cons arg args =>
    cases arg <;> (cases hword; decide)

theorem read_eq {words : List String} (h : ∀ word ∈ words[1]?, word ∉ textFlags)
    (version : String) : read version words = requestOf (parse words.tail) := by
  cases words with
  | nil => rfl
  | cons program rest =>
    have hhead : ∀ word, rest.head? = some word → word ∉ textFlags := by
      intro word hword
      apply h
      rw [List.getElem?_cons_succ, ← List.head?_eq_getElem?, hword, Option.mem_def]
    unfold read
    dsimp only
    split
    · next hword => exact absurd (by decide) (hhead _ hword)
    · next hword => exact absurd (by decide) (hhead _ hword)
    · next hword => exact absurd (by decide) (hhead _ hword)
    · next hword => exact absurd (by decide) (hhead _ hword)
    · rw [List.tail_cons]
      cases parse rest <;> rfl

/-- A command line that asks for no text is accepted if and only if the words behind the name of the
program are written arguments, and then gives these arguments: whatever their values look like,
arguments that are written are read back. It is refused for a missing value if and only if a flag
ends it behind written arguments, and else for the first word in the place of a flag that is none.
The last value of each kind is the one that counts. -/
theorem read_by_grammar {words : List String} (h : ∀ word ∈ words[1]?, word ∉ textFlags)
    (version : String) :
    (∀ args, read version words = .run args ↔ words.tail = written args) ∧
    ((¬∃ args, words.tail = written args) → ∃ fault, read version words = .refuse fault) ∧
    (∀ flag, read version words = .refuse (.missingValue flag) ↔
      IsFlag flag ∧ ∃ args, words.tail = written args ++ [flag]) ∧
    (∀ word, read version words = .refuse (.unknown word) ↔
      ¬IsFlag word ∧ ∃ args rest, words.tail = written args ++ word :: rest) ∧
    ∀ args, (∀ program, read version (program :: written args) = .run args) ∧
      IsLast .datadir args (lastDatadir? args) ∧ IsLast .apiUrl args (lastApiUrl? args) := by
  refine ⟨fun args => ?_, fun hnone => ?_, fun flag => ?_, fun word => ?_, fun args => ⟨?_,
    isLast_lastDatadir? args, isLast_lastApiUrl? args⟩⟩
  · rw [read_eq h, requestOf_eq_run_iff, parse_eq_ok_iff]
  · cases hparse : parse words.tail with
    | ok args => exact absurd ⟨args, parse_eq_ok_iff.1 hparse⟩ hnone
    | error fault => exact ⟨fault, by rw [read_eq h, hparse, requestOf]⟩
  · rw [read_eq h, requestOf_eq_refuse_iff, parse_eq_missingValue_iff]
  · rw [read_eq h, requestOf_eq_refuse_iff, parse_eq_unknown_iff]
  · intro program
    have hwords : ∀ word ∈ (program :: written args)[1]?, word ∉ textFlags := head?_written args
    rw [read_eq hwords, List.tail_cons, parse_written, requestOf]

/-- A value may look like a flag. Without a value of its own the same word is refused. -/
theorem read_of_flagged :
    (∀ word ∈ ["console", "--datadir", "--api-url", "--api-url"][1]?, word ∉ textFlags) ∧
    read "0.1.0" ["console", "--datadir", "--api-url", "--api-url"] =
      .refuse (.missingValue "--api-url") ∧
    read "0.1.0" ["console", "--datadir", "--api-url", "--api-url", "--help"] =
      .run [.datadir "--api-url", .apiUrl "--help"] := by
  have hwords : ∀ word ∈ ["console", "--datadir", "--api-url", "--api-url"][1]?,
      word ∉ textFlags := by
    rintro word ⟨⟩
    decide
  obtain ⟨-, -, hmissing, -, hwritten⟩ := read_by_grammar hwords "0.1.0"
  refine ⟨hwords, (hmissing "--api-url").2 ⟨by decide, [.datadir "--api-url"], rfl⟩, ?_⟩
  exact (hwritten [.datadir "--api-url", .apiUrl "--help"]).1 "console"

end TokenConsole.CommandLine
