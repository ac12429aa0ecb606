/-
  Sets of characters given as ranges of code points.

  A property of a standard is a long table; the table is kept as it is published, as inclusive
  ranges in increasing order, and membership is a plain search through it.
-/

namespace Handover.Text

/-- Inclusive ranges of code points, in increasing order. -/
abbrev Ranges := List (Nat × Nat)

/-- The character lies in one of the ranges. -/
def Ranges.covers (ranges : Ranges) (c : Char) : Bool :=
  ranges.any fun r => decide (r.1 ≤ c.toNat) && decide (c.toNat ≤ r.2)

end Handover.Text
