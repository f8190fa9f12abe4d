/-!
# Membership in a table of code points

A character property beyond ASCII is a list of closed intervals. `inRanges` looks a code point up;
`inRanges_iff` says what the answer means.
-/

namespace Parlance.Text

/-- Whether a code point lies in one of the closed intervals. -/
def inRanges (ranges : List (Nat × Nat)) (code : Nat) : Bool :=
  ranges.any fun r => r.1 ≤ code && code ≤ r.2

/-- A code point is in the table (`inRanges`) exactly when some interval holds it. -/
theorem inRanges_iff {ranges : List (Nat × Nat)} {code : Nat} :
    inRanges ranges code = true ↔ ∃ r ∈ ranges, r.1 ≤ code ∧ code ≤ r.2 := by
  simp [inRanges]

end Parlance.Text
