/-! # Sets of characters given by ranges of code points

A property of characters is held as a list of closed ranges of code points.  `inRanges` decides
membership. -/

namespace CloudApi.Text

/-- A code point lies in one of the closed ranges. -/
def inRanges (ranges : List (Nat × Nat)) (n : Nat) : Bool :=
  ranges.any fun r => r.1 ≤ n && n ≤ r.2

end CloudApi.Text
