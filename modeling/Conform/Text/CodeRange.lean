/-!
# Sets of code points

A character class of Unicode is stored as its ranges of code points, in ascending order.

* `inRanges` — whether a code point lies in one of the ranges.
-/

namespace Conform.Text

/-- Whether one of the closed ranges holds the code point. -/
def inRanges (ranges : Array (Nat × Nat)) (n : Nat) : Bool :=
  ranges.any fun r => r.1 ≤ n && n ≤ r.2

end Conform.Text
