/-!
# Ranges of code points

A class of characters is given by the ranges of its code points, in ascending
order and apart from each other.
-/

namespace PolygonRenderer

/-- The first and the last code point of each range. -/
abbrev CodePointRanges := List (Nat × Nat)

namespace CodePointRanges

def contains (ranges : CodePointRanges) (c : Char) : Bool :=
  ranges.any fun r => r.1 ≤ c.toNat && c.toNat ≤ r.2

end CodePointRanges

end PolygonRenderer
