/-!
# Ranges of code points

A class of characters is given by a table of ranges, both ends included. Membership is decided by
`CodeRange.covers`, whatever the order of the ranges.
-/

namespace Rpn.Text

/-- The code points from the first component to the second, both included. -/
abbrev CodeRange := Nat × Nat

namespace CodeRange

/-- Whether a code point lies in the range. -/
def contains (range : CodeRange) (code : Nat) : Bool :=
  range.1 ≤ code && code ≤ range.2

/-- Whether some range of a table contains the code point. -/
def covers (table : List CodeRange) (code : Nat) : Bool :=
  table.any (·.contains code)

@[simp]
theorem contains_iff (range : CodeRange) (code : Nat) :
    range.contains code = true ↔ range.1 ≤ code ∧ code ≤ range.2 := by
  simp [contains]

theorem covers_iff (table : List CodeRange) (code : Nat) :
    covers table code = true ↔ ∃ range ∈ table, range.1 ≤ code ∧ code ≤ range.2 := by
  simp [covers]

end CodeRange

end Rpn.Text
