/-!
# Ranges — sets of characters as closed ranges

A set of characters of a standard is kept as a table of closed ranges of code points.
-/

namespace HostTopology
namespace Text

/-- Membership of a code point in one of the ranges. -/
def inRanges (table : List (Nat × Nat)) (n : Nat) : Bool :=
  table.any fun r => r.1 ≤ n && n ≤ r.2

theorem inRanges_iff {table : List (Nat × Nat)} {n : Nat} :
    inRanges table n = true ↔ ∃ r ∈ table, r.1 ≤ n ∧ n ≤ r.2 := by
  simp only [inRanges, List.any_eq_true, Bool.and_eq_true, decide_eq_true_eq]

end Text
end HostTopology
