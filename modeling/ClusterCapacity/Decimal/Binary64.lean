import ClusterCapacity.Decimal.Rounding

/-!
# Magnitudes of binary64 numbers

A non-negative binary64 number is `mantissa · 2 ^ exponent` with a mantissa below `2 ^ 53` and an
exponent of at least `-1074`.  Every operation is exact arithmetic on natural numbers followed by
one rounding to nearest, ties to even, so results agree with the hardware's bit for bit.
-/

namespace ClusterCapacity.Decimal

/-- The count nearest to `n` with at most 53 significant bits, ties to even. -/
def nearestDouble (n : Nat) : Nat :=
  if n < Nat.pow 2 53 then n
  else
    let unit := Nat.pow 2 (n.log2 - 52)
    roundHalfEven n unit * unit

/-- The magnitude `mantissa · 2 ^ exponent`. -/
structure Binary64 where
  mantissa : Nat
  exponent : Int
deriving DecidableEq, Repr

namespace Binary64

/-- The magnitude zero. -/
def zero : Binary64 := ⟨0, -1074⟩

/-- Numerator and denominator of the exact value. -/
def ratio (x : Binary64) : Nat × Nat :=
  if 0 ≤ x.exponent then (x.mantissa * Nat.pow 2 x.exponent.toNat, 1)
  else (x.mantissa, Nat.pow 2 (-x.exponent).toNat)

/-- The exponent `k` with `2 ^ k ≤ num / den < 2 ^ (k + 1)`, for positive `num` and `den`. -/
def binaryOrder (num den : Nat) : Int :=
  let k : Int := (num.log2 : Int) - den.log2
  let reaches := if 0 ≤ k then den * Nat.pow 2 k.toNat ≤ num else den ≤ num * Nat.pow 2 (-k).toNat
  if reaches then k else k - 1

/-- The magnitude nearest to `num / den`, ties to even; it may lie beyond the finite range. -/
def ofRatio (num den : Nat) : Binary64 :=
  if num = 0 then zero
  else
    let exponent := max (binaryOrder num den - 52) (-1074)
    let mantissa :=
      if 0 ≤ exponent then roundHalfEven num (den * Nat.pow 2 exponent.toNat)
      else roundHalfEven (num * Nat.pow 2 (-exponent).toNat) den
    if mantissa = Nat.pow 2 53 then ⟨Nat.pow 2 52, exponent + 1⟩ else ⟨mantissa, exponent⟩

/-- The magnitude nearest to `n`. -/
def ofNat (n : Nat) : Binary64 := ofRatio n 1

/-- Whether the magnitude is a binary64 number and not beyond the greatest one. -/
def isFinite (x : Binary64) : Bool := x.exponent ≤ 971

/-- The rounded product. -/
def mul (x y : Binary64) : Binary64 :=
  ofRatio (x.ratio.1 * y.ratio.1) (x.ratio.2 * y.ratio.2)

/-- The rounded quotient by a positive magnitude. -/
def div (x y : Binary64) : Binary64 :=
  ofRatio (x.ratio.1 * y.ratio.2) (x.ratio.2 * y.ratio.1)

/-- The rounded sum. -/
def add (x y : Binary64) : Binary64 :=
  ofRatio (x.ratio.1 * y.ratio.2 + y.ratio.1 * x.ratio.2) (x.ratio.2 * y.ratio.2)

/-- Whether `x` is less than `y`. -/
def isBelow (x y : Binary64) : Bool := x.ratio.1 * y.ratio.2 < y.ratio.1 * x.ratio.2

/-- The rounded power of ten. -/
def pow10 (k : Nat) : Binary64 := ofNat (Nat.pow 10 k)

/-- `x · 10 ^ k`, by one product with or quotient by a power of ten up to `10 ^ 308`; greater
negative powers are divided out `10 ^ 308` at a time.  `none` beyond the finite range. -/
def scale10 (x : Binary64) (k : Int) : Option Binary64 :=
  if k.natAbs ≤ 308 then
    if 0 ≤ k then
      let product := x.mul (pow10 k.toNat)
      if product.isFinite then some product else none
    else some (x.div (pow10 k.natAbs))
  else if x.mantissa = 0 then some x
  else if 0 ≤ k then none
  else scale10 (x.div (pow10 308)) (k + 308)
termination_by k.natAbs
decreasing_by omega

end Binary64

end ClusterCapacity.Decimal
