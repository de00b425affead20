/-!
# Ranges of code points

A character property of Unicode is kept as the list of the ranges that have it.
-/

namespace EventAtlas.Text

/-- The code points from the first component to the second, both included. -/
abbrev CodeRange := Nat × Nat

namespace CodeRange

/-- Whether a character lies in the range. -/
def holds (range : CodeRange) (c : Char) : Bool :=
  range.1 ≤ c.toNat && c.toNat ≤ range.2

/-- A range holds exactly the characters between its ends. -/
theorem holds_iff {range : CodeRange} {c : Char} :
    range.holds c = true ↔ range.1 ≤ c.toNat ∧ c.toNat ≤ range.2 := by
  simp [holds]

end CodeRange

end EventAtlas.Text
