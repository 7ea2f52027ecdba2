import ClusterCapacity.Proofs.Decimal.Rounding

/-!
# The values of binary64 numbers

A magnitude has a rational value, and an operation gives the exact result wherever that is a
binary64 number again (`value_ofRatio`, `value_div`).  A comparison is one of values
(`isBelow_iff`).  The magnitude nearest to a count has the value that the count has when it is
rounded to 53 bits (`value_ofNat`).
-/

namespace ClusterCapacity.Decimal

/-- Whether `q` is a number of at most 53 bits times a power of two from `2 ^ least` on. -/
def IsBinary64 (least : ℤ) (q : ℚ) : Prop :=
  ∃ (mantissa : ℕ) (exponent : ℤ), mantissa < 2 ^ 53 ∧ least ≤ exponent ∧
    q = mantissa * 2 ^ exponent

theorem isBinary64_natCast {n : ℕ} (h : n < 2 ^ 53) : IsBinary64 0 n :=
  ⟨n, 0, h, le_rfl, by rw [zpow_zero, mul_one]⟩

namespace IsBinary64

variable {least : ℤ} {q : ℚ}

theorem mono (h : IsBinary64 least q) {other : ℤ} (hle : other ≤ least) : IsBinary64 other q :=
  h.imp fun _ ⟨exponent, hmantissa, hleast, hvalue⟩ =>
    ⟨exponent, hmantissa, hle.trans hleast, hvalue⟩

/-- Dividing by a power of two takes from the exponent only. -/
theorem div_two_pow (h : IsBinary64 least q) (k : ℕ) : IsBinary64 (least - k) (q / 2 ^ k) := by
  obtain ⟨mantissa, exponent, hmantissa, hleast, rfl⟩ := h
  refine ⟨mantissa, exponent - k, hmantissa, by omega, ?_⟩
  rw [zpow_sub₀ two_ne_zero, zpow_natCast, mul_div_assoc]

end IsBinary64

/-- A count that is rounded to 53 bits is a binary64 number. -/
theorem isBinary64_nearestDouble (n : ℕ) : IsBinary64 0 (nearestDouble n) := by
  rcases Nat.lt_or_ge n (2 ^ 53) with h | h
  · rw [nearestDouble_of_lt h]
    exact isBinary64_natCast h
  rw [nearestDouble_of_le h]
  rcases (roundHalfEven_doubleUnit_bounds h).2.eq_or_lt with hcarry | hbits
  · -- the significand is the power of two after 53 bits
    refine ⟨2 ^ 52, ((n.log2 - 52 + 1 : ℕ) : ℤ), by norm_num, by omega, ?_⟩
    rw [hcarry, doubleUnit, zpow_natCast, pow_succ]
    push_cast
    ring
  · refine ⟨_, ((n.log2 - 52 : ℕ) : ℤ), hbits, by omega, ?_⟩
    rw [zpow_natCast, doubleUnit]
    push_cast
    rfl

namespace Binary64

/-- The number that a magnitude stands for. -/
def value (x : Binary64) : ℚ := x.mantissa * 2 ^ x.exponent

theorem ratio_snd_pos (x : Binary64) : 0 < x.ratio.2 := by
  rw [ratio]
  split
  · exact Nat.one_pos
  · exact Nat.two_pow_pos _

theorem ratio_eq_value (x : Binary64) : (x.ratio.1 : ℚ) / x.ratio.2 = x.value := by
  rw [ratio, value]
  split
  · rename_i h
    have hexponent : x.exponent = (x.exponent.toNat : ℤ) := (Int.toNat_of_nonneg h).symm
    conv_rhs => rw [hexponent, zpow_natCast]
    rw [Nat.pow_eq]
    push_cast
    rw [div_one]
  · rename_i h
    have hexponent : x.exponent = -((-x.exponent).toNat : ℤ) := by omega
    conv_rhs => rw [hexponent, zpow_neg, zpow_natCast]
    rw [Nat.pow_eq]
    push_cast
    rw [div_eq_mul_inv]

theorem isBelow_iff {x y : Binary64} : x.isBelow y = true ↔ x.value < y.value := by
  have hx : (0 : ℚ) < x.ratio.2 := Nat.cast_pos.mpr x.ratio_snd_pos
  have hy : (0 : ℚ) < y.ratio.2 := Nat.cast_pos.mpr y.ratio_snd_pos
  rw [← ratio_eq_value, ← ratio_eq_value, div_lt_div_iff₀ hx hy, isBelow, decide_eq_true_eq]
  exact_mod_cast Iff.rfl

/-! ### Rounded quotients -/

variable {num den : ℕ}

theorem zpow_log2_sub_log2_le (hnum : 0 < num) (hden : 0 < den) :
    (2 : ℚ) ^ ((num.log2 : ℤ) - den.log2 - 1) ≤ num / den := by
  have hlower : (2 : ℚ) ^ num.log2 ≤ num := by exact_mod_cast Nat.log2_self_le hnum.ne'
  have hupper : (den : ℚ) ≤ 2 ^ (den.log2 + 1) := by
    exact_mod_cast (Nat.lt_log2_self (n := den)).le
  have hexponent : (num.log2 : ℤ) - den.log2 - 1 = (num.log2 : ℤ) - (den.log2 + 1 : ℕ) := by
    push_cast
    ring
  rw [hexponent, zpow_sub₀ two_ne_zero, zpow_natCast, zpow_natCast]
  gcongr

/-- The order of a quotient is a power of two that it reaches. -/
theorem zpow_binaryOrder_le (hnum : 0 < num) (hden : 0 < den) :
    (2 : ℚ) ^ binaryOrder num den ≤ num / den := by
  have hpos : (0 : ℚ) < den := Nat.cast_pos.mpr hden
  have hbelow := zpow_log2_sub_log2_le hnum hden
  simp only [binaryOrder, Nat.pow_eq]
  generalize (num.log2 : ℤ) - den.log2 = order at hbelow ⊢
  by_cases hsign : 0 ≤ order
  · obtain ⟨k, rfl⟩ := Int.eq_ofNat_of_zero_le hsign
    simp only [hsign, ↓reduceIte, Int.toNat_natCast]
    split
    · rename_i hreaches
      rw [zpow_natCast, le_div_iff₀ hpos, mul_comm]
      exact_mod_cast hreaches
    · exact hbelow
  · obtain ⟨k, rfl⟩ : ∃ k : ℕ, order = -(k : ℤ) := ⟨(-order).toNat, by omega⟩
    simp only [hsign, ↓reduceIte, neg_neg, Int.toNat_natCast]
    split
    · rename_i hreaches
      rw [zpow_neg, zpow_natCast, le_div_iff₀ hpos, inv_mul_le_iff₀ (by positivity), mul_comm]
      exact_mod_cast hreaches
    · exact hbelow

/-- The quotient is rounded to a multiple of a power of two, which a carry does not change. -/
theorem exists_value_ofRatio (hnum : 0 < num) (hden : 0 < den) :
    ∃ mantissa : ℕ,
      IsNearestEven (num / den / 2 ^ max (binaryOrder num den - 52) (-1074)) mantissa ∧
      (ofRatio num den).value = mantissa * 2 ^ max (binaryOrder num den - 52) (-1074) := by
  simp only [ofRatio, if_neg hnum.ne', Nat.pow_eq]
  generalize max (binaryOrder num den - 52) (-1074) = exponent
  have hcarry (mantissa : ℕ) :
      (if mantissa = 2 ^ 53 then (⟨2 ^ 52, exponent + 1⟩ : Binary64)
        else ⟨mantissa, exponent⟩).value = mantissa * 2 ^ exponent := by
    split
    · rename_i h
      rw [value, h, zpow_add_one₀ two_ne_zero]
      push_cast
      ring
    · rfl
  refine ⟨_, ?_, hcarry _⟩
  split
  · rename_i h
    obtain ⟨k, rfl⟩ := Int.eq_ofNat_of_zero_le h
    have hdivisor : 0 < den * 2 ^ k := Nat.mul_pos hden (Nat.two_pow_pos k)
    have hround := isNearestEven_roundHalfEven num hdivisor
    rw [Int.toNat_natCast, zpow_natCast, div_div]
    exact_mod_cast hround
  · rename_i h
    obtain ⟨k, rfl⟩ : ∃ k : ℕ, exponent = -(k : ℤ) := ⟨(-exponent).toNat, by omega⟩
    have hround := isNearestEven_roundHalfEven (num * 2 ^ k) hden
    rw [neg_neg, Int.toNat_natCast, zpow_neg, zpow_natCast, div_inv_eq_mul, div_mul_eq_mul_div]
    exact_mod_cast hround

/-- A quotient that is a binary64 number is not rounded. -/
theorem value_ofRatio (hden : 0 < den) (h : IsBinary64 (-1074) ((num : ℚ) / den)) :
    (ofRatio num den).value = num / den := by
  rcases Nat.eq_zero_or_pos num with rfl | hnum
  · rw [ofRatio, if_pos rfl, value, Nat.cast_zero, zero_div]
    exact mul_eq_zero_of_left Nat.cast_zero _
  obtain ⟨rounded, hrounded, hvalue⟩ := exists_value_ofRatio hnum hden
  obtain ⟨mantissa, exponent, hmantissa, hleast, hexact⟩ := h
  have horder : binaryOrder num den < 53 + exponent := by
    have hbound : (num : ℚ) / den < 2 ^ (53 + exponent) := by
      rw [hexact, zpow_add₀ two_ne_zero]
      gcongr
      exact_mod_cast hmantissa
    exact (zpow_lt_zpow_iff_right₀ one_lt_two).mp ((zpow_binaryOrder_le hnum hden).trans_lt hbound)
  -- the exponent of the result is no greater, so the rounded number is an integer
  obtain ⟨k, hk⟩ : ∃ k : ℕ, exponent = max (binaryOrder num den - 52) (-1074) + k :=
    ⟨(exponent - max (binaryOrder num den - 52) (-1074)).toNat, by omega⟩
  generalize max (binaryOrder num den - 52) (-1074) = unit at hrounded hvalue hk
  have hunit : (2 : ℚ) ^ unit ≠ 0 := zpow_ne_zero _ two_ne_zero
  have hsplit : (num : ℚ) / den = (mantissa * 2 ^ k : ℕ) * 2 ^ unit := by
    rw [hexact, hk, zpow_add₀ two_ne_zero, zpow_natCast]
    push_cast
    ring
  have hinteger : (num : ℚ) / den / 2 ^ unit = (mantissa * 2 ^ k : ℕ) := by
    rw [hsplit, mul_div_assoc, div_self hunit, mul_one]
  rw [hinteger] at hrounded
  rw [hvalue, hrounded.unique (isNearestEven_natCast _), hsplit]

/-- The magnitude nearest to a count stands for the count rounded to 53 bits. -/
theorem value_ofNat (n : ℕ) : (ofNat n).value = nearestDouble n := by
  rcases Nat.lt_or_ge n (2 ^ 53) with h | h
  · have hexact : IsBinary64 (-1074) ((n : ℚ) / (1 : ℕ)) := by
      rw [Nat.cast_one, div_one]
      exact (isBinary64_natCast h).mono (by norm_num)
    rw [ofNat, value_ofRatio Nat.one_pos hexact, nearestDouble_of_lt h, Nat.cast_one, div_one]
  · have hlog := le_log2 h
    have horder : binaryOrder n 1 = n.log2 := by
      have hone : Nat.log2 1 = 0 := by decide
      have hreaches : 2 ^ n.log2 ≤ n := Nat.log2_self_le (by omega)
      simp [binaryOrder, hone, hreaches]
    obtain ⟨rounded, hrounded, hvalue⟩ := exists_value_ofRatio (show 0 < n by omega) Nat.one_pos
    have hexponent : max (binaryOrder n 1 - 52) (-1074) = ((n.log2 - 52 : ℕ) : ℤ) := by
      rw [horder]
      omega
    rw [hexponent, zpow_natCast] at hrounded hvalue
    have hunit : ((doubleUnit n : ℕ) : ℚ) = 2 ^ (n.log2 - 52) := by
      rw [doubleUnit]
      push_cast
      rfl
    rw [Nat.cast_one, div_one, ← hunit] at hrounded
    rw [ofNat, hvalue, hrounded.unique (isNearestEven_roundHalfEven n (doubleUnit_pos n)),
      nearestDouble_of_le h, ← hunit]
    push_cast
    rfl

/-- A count of at most 53 bits is not rounded. -/
theorem value_ofNat_of_lt {n : ℕ} (h : n < 2 ^ 53) : (ofNat n).value = n := by
  rw [value_ofNat, nearestDouble_of_lt h]

/-- A quotient of magnitudes that is a binary64 number is not rounded. -/
theorem value_div {x y : Binary64} (hy : 0 < y.value) (h : IsBinary64 (-1074) (x.value / y.value)) :
    (x.div y).value = x.value / y.value := by
  have hx := x.ratio_snd_pos
  have hnum : 0 < y.ratio.1 := by
    by_contra hzero
    rw [← ratio_eq_value, Nat.eq_zero_of_not_pos hzero, Nat.cast_zero, zero_div] at hy
    exact lt_irrefl 0 hy
  have hquotient : ((x.ratio.1 * y.ratio.2 : ℕ) : ℚ) / (x.ratio.2 * y.ratio.1 : ℕ)
      = x.value / y.value := by
    rw [← ratio_eq_value x, ← ratio_eq_value y, div_div_div_eq]
    push_cast
    rfl
  rw [div, value_ofRatio (Nat.mul_pos hx hnum) (hquotient ▸ h), hquotient]

end Binary64

end ClusterCapacity.Decimal
