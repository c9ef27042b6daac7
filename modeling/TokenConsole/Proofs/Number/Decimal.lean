import Mathlib.Algebra.Group.Nat.Defs
import TokenConsole.Number.Whole
import TokenConsole.Text.Blank

/-!
# Numbers in decimal

A number that is written in decimal digits reads as the same number.
-/
namespace TokenConsole.Number

/-- A number that fits into 64 bits with a sign. -/
def InInt64 (n : Int) : Prop := minInt64 ≤ n ∧ n ≤ maxInt64

instance (n : Int) : Decidable (InInt64 n) :=
  inferInstanceAs (Decidable (minInt64 ≤ n ∧ n ≤ maxInt64))

theorem checkInt64_eq_some_iff {n m : Int} : checkInt64 n = some m ↔ InInt64 n ∧ n = m := by
  rw [checkInt64]
  split
  · next h =>
    rw [Option.some.injEq]
    exact ⟨fun hm => ⟨h, hm⟩, fun hm => hm.2⟩
  · next h => exact ⟨nofun, fun hm => absurd hm.1 h⟩

theorem ofDigits_toDigits (n : Nat) : ofDigits (Nat.toDigits 10 n) = n := by
  have hfold : ofDigits (Nat.toDigits 10 n) = Nat.ofDigitChars 10 (Nat.toDigits 10 n) 0 :=
    Nat.ofDigitChars_eq_foldl.symm
  rw [hfold, Nat.ofDigitChars_ten_toDigits]

theorem isDigit_of_mem_toDigits {n : Nat} {c : Char} (h : c ∈ Nat.toDigits 10 n) :
    c.isDigit = true :=
  Nat.isDigit_of_mem_toDigits (by decide) (Nat.le_refl 10) h

theorem numeral?_toDigits (n : Nat) : numeral? (Nat.toDigits 10 n) = some n := by
  have hdigits : (Nat.toDigits 10 n).all Char.isDigit = true :=
    List.all_eq_true.2 fun _ hc => isDigit_of_mem_toDigits hc
  rw [numeral?, if_pos ⟨Nat.toDigits_ne_nil, hdigits⟩, ofDigits_toDigits]

theorem toList_toString (n : Int) : (toString n).toList =
    if 0 ≤ n then Nat.toDigits 10 n.toNat else '-' :: Nat.toDigits 10 (-n).toNat := by
  rw [Int.toString_eq_repr, Int.repr_eq_if]
  split
  · rw [Nat.repr_eq_ofList_toDigits, String.toList_ofList]
  · have hsign : "-".toList = ['-'] := by decide
    rw [String.toList_append, hsign, Nat.repr_eq_ofList_toDigits, String.toList_ofList,
      List.singleton_append]

/-- A numeral without a sign stands for itself. -/
theorem int64?_of_unsigned {s : List Char} (h : ∀ c ∈ s.head?, c.isDigit = true) :
    int64? s = ((numeral? s).map Int.ofNat).bind checkInt64 := by
  unfold int64?
  split
  · exact absurd (h '+' rfl) (by decide)
  · exact absurd (h '-' rfl) (by decide)
  · rfl

/-- What is written in decimal is read back. -/
theorem int64?_toString {n : Int} (h : InInt64 n) : int64? (toString n).toList = some n := by
  have hcheck : checkInt64 n = some n := checkInt64_eq_some_iff.2 ⟨h, rfl⟩
  rw [toList_toString]
  split
  · next hn =>
    have hvalue : Int.ofNat n.toNat = n := Int.toNat_of_nonneg hn
    rw [int64?_of_unsigned fun _ hc => isDigit_of_mem_toDigits (List.mem_of_mem_head? hc),
      numeral?_toDigits, Option.map_some, hvalue, Option.bind_some, hcheck]
  · next hn =>
    have hvalue : -Int.ofNat (-n).toNat = n := by
      rw [Int.ofNat_eq_natCast]
      omega
    have hsigned : int64? ('-' :: Nat.toDigits 10 (-n).toNat) =
        ((numeral? (Nat.toDigits 10 (-n).toNat)).map fun m => -Int.ofNat m).bind checkInt64 := rfl
    rw [hsigned, numeral?_toDigits, Option.map_some, hvalue, Option.bind_some, hcheck]

/-- There is no white space in a number. -/
theorem isSpace_of_mem_toString {n : Int} {c : Char} (h : c ∈ (toString n).toList) :
    Text.isSpace c = false := by
  have hdigit : ∀ {m : Nat}, c ∈ Nat.toDigits 10 m → Text.isSpace c = false := by
    intro m hc
    have hall : ∀ n < 58, 48 ≤ n → Text.isSpace (Char.ofNat n) = false := by decide
    have hrange : 48 ≤ c.toNat ∧ c.toNat ≤ 57 :=
      Char.isDigit_iff_toNat.1 (isDigit_of_mem_toDigits hc)
    have hc' := hall c.toNat (by omega) hrange.1
    rwa [Char.ofNat_toNat] at hc'
  rw [toList_toString] at h
  split at h
  · exact hdigit h
  · rcases List.mem_cons.1 h with rfl | hc
    · decide
    · exact hdigit hc

/-! ### Digits side by side -/

theorem foldl_digits (ds : List Char) (n : Nat) :
    ds.foldl (fun n d => 10 * n + (d.toNat - '0'.toNat)) n = n * 10 ^ ds.length + ofDigits ds := by
  unfold ofDigits
  induction ds generalizing n with
  | nil => simp
  | cons d ds ih =>
    rw [List.foldl_cons, List.foldl_cons, ih, ih (10 * 0 + _), List.length_cons, Nat.pow_succ,
      Nat.mul_zero, Nat.zero_add, Nat.add_mul, Nat.add_assoc, Nat.mul_right_comm,
      Nat.mul_comm n, Nat.mul_comm 10, Nat.mul_right_comm]

theorem ofDigits_append (ds es : List Char) :
    ofDigits (ds ++ es) = ofDigits ds * 10 ^ es.length + ofDigits es := by
  rw [ofDigits, List.foldl_append, foldl_digits es]
  rfl

theorem ofDigits_lt {ds : List Char} (h : ∀ c ∈ ds, c.isDigit = true) :
    ofDigits ds < 10 ^ ds.length := by
  induction ds with
  | nil => decide
  | cons d ds ih =>
    have hrest := ih fun c hc => h c (List.mem_cons_of_mem d hc)
    have hdigit : d.toNat - '0'.toNat ≤ 9 := by
      have hrange : 48 ≤ d.toNat ∧ d.toNat ≤ 57 :=
        Char.isDigit_iff_toNat.1 (h d List.mem_cons_self)
      change d.toNat - 48 ≤ 9
      omega
    have hfront := Nat.mul_le_mul_right (10 ^ ds.length) hdigit
    have hvalue : ofDigits (d :: ds) = (d.toNat - '0'.toNat) * 10 ^ ds.length + ofDigits ds := by
      rw [ofDigits, List.foldl_cons, foldl_digits, Nat.mul_zero, Nat.zero_add]
    rw [hvalue, List.length_cons, Nat.pow_succ]
    omega

/-- Digits end where something else follows. -/
theorem takeWhile_digits {ds r : List Char} (hds : ∀ c ∈ ds, c.isDigit = true)
    (hr : ∀ c ∈ r.head?, c.isDigit = false) : (ds ++ r).takeWhile Char.isDigit = ds := by
  have hstop : r.takeWhile Char.isDigit = [] := by
    cases r with
    | nil => rfl
    | cons c r => rw [List.takeWhile_cons_of_neg (by simp [hr c rfl])]
  rw [List.takeWhile_append_of_pos hds, hstop, List.append_nil]

theorem dropWhile_digits {ds r : List Char} (hds : ∀ c ∈ ds, c.isDigit = true)
    (hr : ∀ c ∈ r.head?, c.isDigit = false) : (ds ++ r).dropWhile Char.isDigit = r := by
  rw [List.dropWhile_append_of_pos hds, Text.dropWhile_of_head hr]

end TokenConsole.Number
