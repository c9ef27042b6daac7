/-!
# Ranges of characters

A property of characters is given by the ranges of code points that have it.
-/
namespace TokenConsole.Text

/-- Membership in a list of inclusive ranges of code points. -/
def inRanges (ranges : List (Nat × Nat)) (c : Char) : Bool :=
  ranges.any fun r => r.1 ≤ c.toNat && c.toNat ≤ r.2

end TokenConsole.Text
