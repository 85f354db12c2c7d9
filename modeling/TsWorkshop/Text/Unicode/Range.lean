/-!
Sets of characters given by ranges of code points.
-/

namespace TsWorkshop.Unicode

/-- Whether the code point of `c` lies in one of the ranges, ends included. -/
def inRanges (c : Char) (ranges : List (Nat × Nat)) : Bool :=
  ranges.any fun (low, high) => low ≤ c.toNat && c.toNat ≤ high

end TsWorkshop.Unicode
