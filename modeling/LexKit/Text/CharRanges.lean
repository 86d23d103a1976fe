/-!
Sets of characters given by ranges of code points.
-/

namespace LexKit

/-- A set of characters, as ranges of code points with both ends included. -/
abbrev CharRanges := List (Nat × Nat)

def CharRanges.has (ranges : CharRanges) (c : Char) : Bool :=
  ranges.any fun range => range.1 ≤ c.toNat && c.toNat ≤ range.2

end LexKit
