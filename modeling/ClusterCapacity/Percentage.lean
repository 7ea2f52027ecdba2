/-!
# Percentages of a capacity

The used percentage is `100 · used / capacity` truncated toward zero and held within 64 bits; there
is none for a capacity of zero.  The free percentage is what is left of one hundred.
-/

namespace ClusterCapacity.Percentage

/-- The truncated percentage of `used` in `capacity`, `none` for zero capacity. -/
def used (used capacity : Int64) : Option Int64 :=
  if capacity = 0 then none
  else some (Int64.ofIntClamp (Int.tdiv (100 * used.toInt) capacity.toInt))

/-- What a used percentage leaves of one hundred. -/
def free (used : Int64) : Int64 := Int64.ofIntClamp (100 - used.toInt)

end ClusterCapacity.Percentage
