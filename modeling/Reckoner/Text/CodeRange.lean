/-!
# Ranges of code points

A property of characters is a list of closed ranges, ascending and apart.
-/

namespace Reckoner.Text

/-- The code points from the first to the second, both included. -/
abbrev CodeRange := Nat × Nat

/-- Whether a character lies in one of the `ranges`, their ends included. -/
def inRanges (ranges : List CodeRange) (c : Char) : Bool :=
  ranges.any fun r => r.1 ≤ c.toNat && c.toNat ≤ r.2

end Reckoner.Text
