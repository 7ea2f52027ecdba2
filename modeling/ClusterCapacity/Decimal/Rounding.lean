/-!
# Rounding a quotient

`roundHalfEven num den` is the integer nearest to `num / den`; a quotient half way between two
integers goes to the even one.  Byte sizes and binary64 values are both rounded with it.
-/

namespace ClusterCapacity.Decimal

/-- The integer nearest to `num / den`, where a half goes to the even neighbour. -/
def roundHalfEven (num den : Nat) : Nat :=
  let quotient := num / den
  let twice := 2 * (num % den)
  if twice < den then quotient
  else if den < twice then quotient + 1
  else if quotient % 2 = 0 then quotient
  else quotient + 1

/-- Decimal digits of `n`, padded with zeros on the left to `width`. -/
def paddedDigits (width n : Nat) : String :=
  let digits := toString n
  String.ofList (List.replicate (width - digits.length) '0') ++ digits

end ClusterCapacity.Decimal
