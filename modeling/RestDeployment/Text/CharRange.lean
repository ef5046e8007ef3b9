/-!
# Ranges of characters

Properties of characters are given as lists of ranges of code points.
-/

namespace RestDeployment.Text

/-- A range of code points, first and last included. -/
abbrev CharRange := Nat × Nat

/-- Whether a character lies in one of the ranges. -/
def inRanges (ranges : List CharRange) (c : Char) : Bool :=
  ranges.any fun r => r.1 ≤ c.toNat && c.toNat ≤ r.2

end RestDeployment.Text
