import ClusterCapacity.Decimal.Shortest

/-!
# Signed binary64 numbers

A magnitude with a sign; zero has either sign.
-/

namespace ClusterCapacity.Decimal

/-- A finite binary64 number. -/
structure Floating where
  negative : Bool
  magnitude : Binary64
deriving DecidableEq, Repr

/-- The shortest text that reads back, in the given format. -/
def Floating.text (format : FloatFormat) (x : Floating) : String :=
  (if x.negative then "-" else "")
    ++ format.text (if x.magnitude.mantissa = 0 then ⟨0, 0⟩ else x.magnitude.shortest)

end ClusterCapacity.Decimal
