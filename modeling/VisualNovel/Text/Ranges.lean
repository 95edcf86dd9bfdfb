/-!
# Sets of characters given by ranges

The Unicode properties that the library reads are sorted lists of closed ranges of scalar
values. `Ranges.contains` decides membership, and `Ranges.contains_iff` says that it does.
-/

namespace VisualNovel.Text

/-- Closed ranges of scalar values, in ascending order. -/
abbrev Ranges := List (Nat × Nat)

/-- Whether the character lies in one of the ranges. -/
def Ranges.contains (ranges : Ranges) (c : Char) : Bool :=
  ranges.any fun range => range.1 ≤ c.toNat && c.toNat ≤ range.2

/-- Membership is membership in one of the closed ranges. -/
theorem Ranges.contains_iff {ranges : Ranges} {c : Char} :
    ranges.contains c = true ↔ ∃ range ∈ ranges, range.1 ≤ c.toNat ∧ c.toNat ≤ range.2 := by
  simp [Ranges.contains]

end VisualNovel.Text
