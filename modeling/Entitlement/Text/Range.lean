/-!
# Ranges of characters

Properties of characters are given by tables of ranges of code points, both ends included.
-/

namespace Entitlement.Text

/-- The character lies in one of the ranges. -/
def inRanges (ranges : List (Nat × Nat)) (c : Char) : Bool :=
  ranges.any fun r => r.1 ≤ c.toNat && c.toNat ≤ r.2

end Entitlement.Text
