/-!
# Totals

The total of some counts.
-/

namespace EventAtlas

/-- The total of counts. -/
def total (counts : List Nat) : Nat :=
  counts.foldr (· + ·) 0

end EventAtlas
