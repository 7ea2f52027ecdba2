/-!
# Bounds of 64-bit numbers

Which integers are signed 64-bit numbers.
-/

namespace ClusterCapacity.Decimal

/-- Whether an integer is a signed 64-bit number. -/
def fitsInt64 (value : Int) : Bool :=
  Int64.minValue.toInt ≤ value && value ≤ Int64.maxValue.toInt

theorem fitsInt64_toInt (value : Int64) : fitsInt64 value.toInt = true := by
  have lower := Int64.le_toInt value
  have upper := Int64.toInt_lt value
  simp only [fitsInt64, Int64.toInt_minValue, Int64.toInt_maxValue, Bool.and_eq_true,
    decide_eq_true_eq]
  omega

theorem toInt_ofInt_of_fitsInt64 {value : Int} (h : fitsInt64 value = true) :
    (Int64.ofInt value).toInt = value := by
  simp only [fitsInt64, Int64.toInt_minValue, Int64.toInt_maxValue, Bool.and_eq_true,
    decide_eq_true_eq] at h
  exact Int64.toInt_ofInt_of_le (by omega) (by omega)

end ClusterCapacity.Decimal
