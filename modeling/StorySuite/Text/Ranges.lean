/-!
# Text — tables of character ranges

A character class that Unicode fixes by a list is a list of closed ranges of code points.
-/

namespace StorySuite.Text

/-- `n` lies in one of the closed ranges. -/
def inRanges (ranges : List (Nat × Nat)) (n : Nat) : Bool :=
  ranges.any fun r => r.1 ≤ n && n ≤ r.2

end StorySuite.Text
