import ClusterCapacity.Decimal.Binary64

/-!
# The shortest decimal text of a binary64 number

Among the decimals that round to a given binary64 number the text shows one with the fewest
digits, and of those the one nearest to the number.  The search looks at the two neighbours of the
number on the grid of one digit, two digits, and so on; seventeen digits always suffice.
-/

namespace ClusterCapacity.Decimal

/-- The decimal `digits · 10 ^ scale`. -/
structure Scientific where
  digits : Nat
  scale : Int
deriving DecidableEq, Repr

namespace Binary64

/-- Compares `d` with `num / den` without division: the two cross products. -/
def crossProducts (d : Scientific) (num den : Nat) : Nat × Nat :=
  if 0 ≤ d.scale then (d.digits * Nat.pow 10 d.scale.toNat * den, num)
  else (d.digits * den, num * Nat.pow 10 (-d.scale).toNat)

/-- Whether the decimal `d` rounds to the positive magnitude `x`. -/
def roundsTo (d : Scientific) (x : Binary64) : Bool :=
  let (num, den) := x.ratio
  let lowestOfBinade := x.mantissa = Nat.pow 2 52 ∧ -1074 < x.exponent
  -- half the gap to the neighbour below, in quarters of the last place
  let below := if lowestOfBinade then 1 else 2
  let low := crossProducts d (num * (4 * x.mantissa - below)) (den * (4 * x.mantissa))
  let high := crossProducts d (num * (4 * x.mantissa + 2)) (den * (4 * x.mantissa))
  if x.mantissa % 2 = 0 then low.2 ≤ low.1 && high.1 ≤ high.2
  else low.2 < low.1 && high.1 < high.2

/-- The exponent `k` with `10 ^ k ≤ x < 10 ^ (k + 1)`, for a positive magnitude. -/
def decimalOrder (x : Binary64) : Int :=
  let (num, den) := x.ratio
  if den ≤ num then ((toString (num / den)).length : Int) - 1
  else Int.negOfNat (toString ((den - 1) / num)).length

/-- The neighbours of `x` on the grid of `count` digits that round to `x`, nearest first. -/
def gridNeighbours (x : Binary64) (count : Nat) : List Scientific :=
  let scale := x.decimalOrder - ((count : Int) - 1)
  let (num, den) := x.ratio
  let (top, bottom) :=
    if 0 ≤ scale then (num, den * Nat.pow 10 scale.toNat)
    else (num * Nat.pow 10 (-scale).toNat, den)
  let lower := top / bottom
  let nearest := roundHalfEven top bottom
  let other := if nearest = lower then lower + 1 else lower
  ([⟨nearest, scale⟩, ⟨other, scale⟩] : List Scientific).filter (fun d => roundsTo d x)

/-- A shortest decimal that rounds to the positive magnitude `x`, the nearest of its length. -/
def shortest (x : Binary64) : Scientific :=
  match (List.range 17).findSome? (fun i => (x.gridNeighbours (i + 1)).head?) with
  | some d => d
  | none => ⟨0, 0⟩

end Binary64

/-- How a floating point number is written: positional between the two orders of magnitude, with
an exponent outside them. -/
structure FloatFormat where
  leastPositional : Int
  greatestPositional : Int
  plusInExponent : Bool

/-- Drops the zeros at the end of a digit list. -/
def stripZeros (digits : List Char) : List Char :=
  (digits.reverse.dropWhile (· = '0')).reverse

/-- The text of `d` in the given format; it always shows a point or an exponent. -/
def FloatFormat.text (format : FloatFormat) (d : Scientific) : String :=
  let written := (toString d.digits).toList
  let order : Int := d.scale + written.length - 1
  let digits := stripZeros written
  if d.digits = 0 then "0.0"
  else if format.leastPositional ≤ order ∧ order ≤ format.greatestPositional then
    if order < 0 then
      "0." ++ String.ofList (List.replicate ((-order).toNat - 1) '0' ++ digits)
    else
      let whole := order.toNat + 1
      if digits.length ≤ whole then
        String.ofList (digits ++ List.replicate (whole - digits.length) '0') ++ ".0"
      else String.ofList (digits.take whole) ++ "." ++ String.ofList (digits.drop whole)
  else
    let fraction := digits.drop 1
    let point := if fraction.isEmpty then "" else "."
    let sign := if order < 0 then "-" else if format.plusInExponent then "+" else ""
    String.ofList (digits.take 1) ++ point ++ String.ofList fraction ++ "e" ++ sign
      ++ toString order.natAbs

end ClusterCapacity.Decimal
