/-!
# Ranges of code points

The character classes of this library are tables of closed ranges of code points.
-/

namespace Reflow.Text

/-- Whether `c` lies in one of the closed ranges. -/
def inRanges (ranges : List (Nat × Nat)) (c : Char) : Bool :=
  ranges.any fun r => r.1 ≤ c.toNat && c.toNat ≤ r.2

end Reflow.Text
