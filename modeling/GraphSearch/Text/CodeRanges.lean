/-!
Sets of characters given by ranges of code points.
-/

namespace GraphSearch

/-- Ranges of code points, each with its first and last member. -/
abbrev CodeRanges := List (Nat × Nat)

/-- Whether a character lies in one of the ranges. -/
def CodeRanges.contains (ranges : CodeRanges) (c : Char) : Bool :=
  ranges.any fun range => range.1 ≤ c.toNat && c.toNat ≤ range.2

end GraphSearch
