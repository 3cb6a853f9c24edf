/-!
# Ranges of code points

A set of characters is given as a list of ranges of code points, both ends included.
-/

namespace SessionVault

/-- Whether a character lies in one of the ranges. -/
def inRanges (ranges : List (Nat × Nat)) (c : Char) : Bool :=
  ranges.any fun range => range.1 ≤ c.toNat && c.toNat ≤ range.2

end SessionVault
