/-!
# Ranges of code points

A character class that no formula describes is kept as a table: a list of closed intervals of code
points, in increasing order.
-/

namespace SearchQuery.Text

/-- Whether one of the closed intervals `ranges` holds the code point of `c`. -/
def inRanges (ranges : List (Nat × Nat)) (c : Char) : Bool :=
  ranges.any fun range => range.1 ≤ c.toNat && c.toNat ≤ range.2

theorem inRanges_iff (ranges : List (Nat × Nat)) (c : Char) :
    inRanges ranges c = true ↔ ∃ range ∈ ranges, range.1 ≤ c.toNat ∧ c.toNat ≤ range.2 := by
  simp [inRanges]

end SearchQuery.Text
