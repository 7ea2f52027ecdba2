import ClusterCapacity.ByteSize
import ClusterCapacity.Proofs.Decimal.Binary64

/-!
# Sizes by repeated division

A size can be found with binary64 arithmetic alone: the count is divided by 1024 until at most 5120
are left, and the quotient is written with two places (`dividedText`).  No division rounds and every
comparison is exact, so this gives the text that the exact rule gives (`format_eq_dividedText`).
-/

namespace ClusterCapacity.ByteSize

open Decimal

/-! ### The division -/

/-- The number of each unit that the next one holds. -/
def unitStep : Binary64 := .ofNat 1024

/-- The most that is shown of a unit. -/
def unitLimit : Binary64 := .ofNat 5120

/-- A magnitude of `unit` with two places. -/
def fixedText (unit : SizeUnit) (value : Binary64) : String :=
  scaledText unit (roundHalfEven (100 * value.ratio.1) value.ratio.2)

/-- Divides until the quotient is within the limit of its unit, and at last for the largest. -/
def dividedFrom : List SizeUnit → Binary64 → String
  | [], value => fixedText .peta (value.div unitStep)
  | unit :: units, value =>
    let scaled := value.div unitStep
    if unitLimit.isBelow scaled then dividedFrom units scaled else fixedText unit scaled

/-- The text of a byte count by division; a negative count is below the limit as zero is. -/
def dividedText (bytes : Int64) : String :=
  let value := Binary64.ofNat bytes.toInt.toNat
  if unitLimit.isBelow value then dividedFrom [.kilo, .mega, .giga, .tera] value
  else toString bytes.toInt ++ "B"

/-! ### One step -/

theorem value_unitStep : unitStep.value = 1024 :=
  Binary64.value_ofNat_of_lt (by norm_num)

theorem value_unitLimit : unitLimit.value = 5120 :=
  Binary64.value_ofNat_of_lt (by norm_num)

/-- `value` is `count` divided by 1024 so many times, without any rounding. -/
structure Scaled (count power : ℕ) (value : Binary64) : Prop where
  value_eq : value.value = count / 1024 ^ power
  isBinary64 : IsBinary64 (-(10 * power : ℕ)) value.value

variable {count power : ℕ} {value : Binary64}

theorem scaled_ofNat (n : ℕ) : Scaled (nearestDouble n) 0 (.ofNat n) where
  value_eq := by rw [Binary64.value_ofNat, pow_zero, div_one]
  isBinary64 := Binary64.value_ofNat n ▸ isBinary64_nearestDouble n

namespace Scaled

/-- A division takes ten from the exponent, of which there is enough. -/
theorem div (h : Scaled count power value) (hpower : power < 100) :
    Scaled count (power + 1) (value.div unitStep) := by
  have hbinary : IsBinary64 (-(10 * (power + 1) : ℕ)) (value.value / unitStep.value) := by
    have hten := h.isBinary64.div_two_pow 10
    rw [value_unitStep]
    norm_num at hten
    exact hten.mono (by push_cast; linarith)
  have hvalue : (value.div unitStep).value = value.value / unitStep.value :=
    Binary64.value_div (by rw [value_unitStep]; norm_num) (hbinary.mono (by omega))
  constructor
  · rw [hvalue, h.value_eq, value_unitStep, pow_succ, div_div]
  · rw [hvalue]
    exact hbinary

theorem isBelow_unitLimit (h : Scaled count power value) :
    unitLimit.isBelow value = true ↔ 5120 * 1024 ^ power < count := by
  have hpower : (0 : ℚ) < 1024 ^ power := by positivity
  rw [Binary64.isBelow_iff, value_unitLimit, h.value_eq, lt_div_iff₀ hpower]
  exact_mod_cast Iff.rfl

/-- The places of the quotient are those of the count in its unit. -/
theorem fixedText_eq {unit : SizeUnit} (h : Scaled count unit.power value) :
    fixedText unit value = scaledText unit (hundredths unit count) := by
  rw [fixedText, hundredths]
  congr 1
  refine roundHalfEven_congr value.ratio_snd_pos (Nat.pow_pos (by norm_num)) ?_
  have hratio := value.ratio_eq_value
  rw [h.value_eq] at hratio
  rw [SizeUnit.bytes, Nat.pow_eq]
  push_cast
  rw [mul_div_assoc, hratio, mul_div_assoc]

end Scaled

/-! ### The whole division -/

/-- The first unit of a list within whose limit the count is, else the largest of all. -/
def firstUnit (units : List SizeUnit) (count : ℕ) : SizeUnit :=
  (units.find? (fun unit => count ≤ 5120 * unit.bytes)).getD .peta

theorem ofCount_eq_firstUnit (count : ℕ) :
    SizeUnit.ofCount count = firstUnit [.kilo, .mega, .giga, .tera] count := by
  rw [SizeUnit.ofCount, firstUnit]
  split_ifs <;> simp [*]

/-- Dividing on finds the first unit that is large enough, if the units that are left follow the
power reached. -/
theorem dividedFrom_eq {units : List SizeUnit} (h : Scaled count power value)
    (hunits : (units ++ [SizeUnit.peta]).map SizeUnit.power
      = List.range' (power + 1) (units.length + 1)) :
    dividedFrom units value
      = scaledText (firstUnit units count) (hundredths (firstUnit units count) count) := by
  induction units generalizing power value with
  | nil =>
    obtain rfl : power = 4 := by simpa [SizeUnit.power] using hunits.symm
    have hpeta : Scaled count SizeUnit.peta.power (value.div unitStep) := h.div (by norm_num)
    exact hpeta.fixedText_eq
  | cons unit units ih =>
    rw [List.length_cons, List.range'_succ, List.cons_append, List.map_cons,
      List.cons.injEq] at hunits
    obtain ⟨hunit, hrest⟩ := hunits
    -- powers of units end at five
    have hpower : power < 100 := by
      have hle : unit.power ≤ 5 := by cases unit <;> decide
      omega
    have hnext := h.div hpower
    have hbelow := hnext.isBelow_unitLimit
    have hbytes : unit.bytes = 1024 ^ (power + 1) := by rw [SizeUnit.bytes, Nat.pow_eq, hunit]
    rw [← hbytes] at hbelow
    rw [dividedFrom]
    by_cases hlimit : count ≤ 5120 * unit.bytes
    · have hfirst : firstUnit (unit :: units) count = unit := by simp [firstUnit, hlimit]
      have hwithin : unitLimit.isBelow (value.div unitStep) = false := by
        rw [Bool.eq_false_iff, ne_eq, hbelow]
        omega
      rw [← hunit] at hnext
      simp only [hwithin, Bool.false_eq_true, ↓reduceIte, hfirst, hnext.fixedText_eq]
    · have hfirst : firstUnit (unit :: units) count = firstUnit units count := by
        simp [firstUnit, hlimit]
      have habove : unitLimit.isBelow (value.div unitStep) = true := hbelow.mpr (by omega)
      simp only [habove, ↓reduceIte, hfirst]
      exact ih hnext hrest

/-- Sizes are what repeated division finds. -/
theorem format_eq_dividedText (bytes : Int64) : format bytes = dividedText bytes := by
  have hscaled := scaled_ofNat bytes.toInt.toNat
  have hbelow := hscaled.isBelow_unitLimit
  rw [pow_zero, mul_one, ← not_le, nearestDouble_le_iff (by norm_num), not_le] at hbelow
  have hsmall : bytes ≤ 5120 ↔ bytes.toInt ≤ 5120 := Int64.le_iff_toInt_le
  rw [format, dividedText]
  by_cases h : bytes.toInt ≤ 5120
  · have hwithin : unitLimit.isBelow (.ofNat bytes.toInt.toNat) = false := by
      rw [Bool.eq_false_iff, ne_eq, hbelow]
      omega
    simp only [hsmall.mpr h, ↓reduceIte, hwithin, Bool.false_eq_true]
  · have habove : unitLimit.isBelow (.ofNat bytes.toInt.toNat) = true := hbelow.mpr (by omega)
    simp only [mt hsmall.mp h, ↓reduceIte, habove, ofCount_eq_firstUnit]
    exact (dividedFrom_eq hscaled rfl).symm

end ClusterCapacity.ByteSize
