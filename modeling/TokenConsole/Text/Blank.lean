/-!
# Blank text

White space is the Unicode property `White_Space`. Trimming removes it at both ends of a text; a
text is blank when nothing else is in it.
-/
namespace TokenConsole.Text

/-- The characters with the property `White_Space`. -/
def isSpace (c : Char) : Bool :=
  let n := c.toNat
  (0x9 ≤ n && n ≤ 0xD) || n == 0x20 || n == 0x85 || n == 0xA0 || n == 0x1680 ||
    (0x2000 ≤ n && n ≤ 0x200A) || n == 0x2028 || n == 0x2029 || n == 0x202F || n == 0x205F ||
    n == 0x3000

/-- The text without the characters at its end that `p` accepts. -/
def dropEndWhile (p : Char → Bool) (s : List Char) : List Char :=
  (s.reverse.dropWhile p).reverse

def trimChars (s : List Char) : List Char :=
  dropEndWhile isSpace (s.dropWhile isSpace)

/-- The text without white space at its ends. -/
def trim (s : String) : String :=
  String.ofList (trimChars s.toList)

/-- The text without the copies of `c` at its end. -/
def trimEnd (c : Char) (s : String) : String :=
  String.ofList (dropEndWhile (· == c) s.toList)

/-- A text of white space only. -/
def isBlank (s : String) : Bool :=
  s.toList.all isSpace

theorem trimChars_eq_nil_iff {s : List Char} : trimChars s = [] ↔ s.all isSpace = true := by
  have hd : ∀ l : List Char, l.dropWhile isSpace = [] ↔ l.all isSpace = true := by
    intro l
    induction l with
    | nil => simp
    | cons c r ih => by_cases h : isSpace c <;> simp [List.dropWhile, h, ih]
  simp only [trimChars, dropEndWhile, List.reverse_eq_nil_iff, hd, List.all_reverse]
  constructor
  · intro h
    by_cases he : s.dropWhile isSpace = []
    · exact (hd s).1 he
    · obtain ⟨c, r, hc⟩ := List.exists_cons_of_ne_nil he
      have hn : isSpace c = false := by
        have := List.head_dropWhile_not isSpace he
        simpa [hc] using this
      simp [hc, hn] at h
  · intro h
    simp [(hd s).2 h]

/-- A text is blank when trimming leaves nothing of it. -/
theorem isBlank_iff_trim (s : String) : isBlank s = true ↔ trim s = "" := by
  rw [isBlank, ← trimChars_eq_nil_iff, trim, ← String.toList_inj]
  simp

theorem dropWhile_of_head {p : Char → Bool} {s : List Char} (h : ∀ c ∈ s.head?, p c = false) :
    s.dropWhile p = s := by
  cases s with
  | nil => rfl
  | cons c r => rw [List.dropWhile_cons, h c rfl, if_neg Bool.false_ne_true]

theorem head_dropWhile {p : Char → Bool} (s : List Char) :
    ∀ c ∈ (s.dropWhile p).head?, p c = false := by
  intro c hc
  have hne : s.dropWhile p ≠ [] := by
    intro he
    rw [he] at hc
    cases hc
  rw [List.head?_eq_some_head hne] at hc
  cases hc
  exact List.head_dropWhile_not p hne

theorem dropEndWhile_prefix_self (p : Char → Bool) (s : List Char) : dropEndWhile p s <+: s := by
  have hsuffix := s.reverse.dropWhile_suffix p
  rwa [← List.reverse_prefix, List.reverse_reverse] at hsuffix

/-- Nothing is left to trim of a text that was trimmed. -/
theorem trimChars_trimChars (s : List Char) : trimChars (trimChars s) = trimChars s := by
  have hback : dropEndWhile isSpace (trimChars s) = trimChars s := by
    simp only [trimChars, dropEndWhile, List.reverse_reverse]
    rw [dropWhile_of_head (head_dropWhile _)]
  have hprefix : trimChars s <+: s.dropWhile isSpace := dropEndWhile_prefix_self isSpace _
  have hfront : (trimChars s).dropWhile isSpace = trimChars s := by
    refine dropWhile_of_head fun c hc => head_dropWhile s c ?_
    cases ht : trimChars s with
    | nil =>
      rw [ht] at hc
      cases hc
    | cons d r =>
      rw [ht] at hc hprefix
      cases hc
      obtain ⟨rest, hrest⟩ := hprefix
      rw [← hrest]
      rfl
  rw [trimChars, hfront, hback]

theorem trim_trim (s : String) : trim (trim s) = trim s := by
  rw [trim, trim, String.toList_ofList, trimChars_trimChars]

end TokenConsole.Text
