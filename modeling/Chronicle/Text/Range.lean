/-!
# Ranges of code points

A property of characters as a list of ranges with both ends included.
-/
namespace Chronicle.Text

/-- Whether a character lies in one of the ranges. -/
def inRanges (ranges : List (Nat × Nat)) (c : Char) : Bool :=
  ranges.any fun r => r.1 ≤ c.toNat && c.toNat ≤ r.2

end Chronicle.Text
