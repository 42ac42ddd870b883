/-!
# Code point ranges

Character classes beyond the seven-bit range are lists of inclusive code point ranges.
-/

namespace DeclLinker.Text

/-- The code points from the first number up to and including the second. -/
abbrev Range := Nat × Nat

/-- Whether some range of the list holds the code point. -/
def inRanges (ranges : List Range) (point : Nat) : Bool :=
  ranges.any fun range => range.1 ≤ point && point ≤ range.2

theorem inRanges_eq_true_iff {ranges : List Range} {point : Nat} :
    inRanges ranges point = true ↔ ∃ range ∈ ranges, range.1 ≤ point ∧ point ≤ range.2 := by
  simp [inRanges]

end DeclLinker.Text
