/-! # Ranges of code points

  A class of characters given by a standard is a table of closed ranges.
-/

namespace MakeLens

/-- Whether a code point lies in one of the closed ranges. -/
def inRanges (ranges : List (Nat × Nat)) (n : Nat) : Bool :=
  ranges.any fun r => r.1 ≤ n && n ≤ r.2

end MakeLens
