/-!
# Sets of code points

A set of code points as an ascending list of closed ranges.
-/

namespace ClusterCapacity.Unicode

/-- Closed ranges of code points, ascending. -/
structure CodePoints where
  ranges : List (Nat × Nat)

namespace CodePoints

/-- Whether `code` lies in one of the ranges; the search stops at the first range above it. -/
def containsIn (code : Nat) : List (Nat × Nat) → Bool
  | [] => false
  | (first, last) :: rest => first ≤ code && (code ≤ last || containsIn code rest)

/-- Whether the character is in the set. -/
def contains (set : CodePoints) (c : Char) : Bool := containsIn c.toNat set.ranges

end CodePoints

end ClusterCapacity.Unicode
