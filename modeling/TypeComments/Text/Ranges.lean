/-!
Sets of characters given as closed ranges of code points in increasing order.
-/

namespace TypeComments

/-- Membership in a list of closed ranges in increasing order. The search stops at the first range
that starts above `n`. -/
def inRanges : List (Nat × Nat) → Nat → Bool
  | [], _ => false
  | (lo, hi) :: rest, n => if n < lo then false else decide (n ≤ hi) || inRanges rest n

end TypeComments
