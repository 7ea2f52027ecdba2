import ClusterCapacity.Decimal.Binary64
import Mathlib

/-!
# Rounding to the nearest integer and to 53 bits

`roundHalfEven` gives the one integer that is nearest to the quotient, the even one where two are
equally near (`isNearestEven_roundHalfEven`, `IsNearestEven.unique`).  That rounding is monotone
(`IsNearestEven.mono`) follows from this alone, and so do all bounds on rounded quotients.

Rounding a count to 53 bits is rounding it to a multiple of a power of two.  It is monotone, too
(`nearestDouble_mono`), keeps powers of two, and moves a count by at most half of that power
(`abs_nearestDouble_sub_le`).
-/

namespace ClusterCapacity.Decimal

/-! ### The nearest integer -/

/-- Whether `n` is the integer nearest to `x`, and the even one if two are equally near. -/
structure IsNearestEven (x : ℚ) (n : ℕ) : Prop where
  near : |(n : ℚ) - x| ≤ 1 / 2
  even_of_tie : |(n : ℚ) - x| = 1 / 2 → Even n

/-- What a quotient leaves over the integer below it. -/
theorem div_sub_natDiv (num : ℕ) {den : ℕ} (h : 0 < den) :
    (num : ℚ) / den - (num / den : ℕ) = (num % den : ℕ) / den := by
  have hden : (den : ℚ) ≠ 0 := Nat.cast_ne_zero.mpr h.ne'
  have hsplit : (num : ℚ) = den * (num / den : ℕ) + (num % den : ℕ) := by
    exact_mod_cast (Nat.div_add_mod num den).symm
  rw [eq_div_iff hden, sub_mul, div_mul_cancel₀ _ hden]
  linarith

theorem isNearestEven_roundHalfEven (num : ℕ) {den : ℕ} (h : 0 < den) :
    IsNearestEven ((num : ℚ) / den) (roundHalfEven num den) := by
  have hden : (0 : ℚ) < den := Nat.cast_pos.mpr h
  have hrest := div_sub_natDiv num h
  have hnonneg : (0 : ℚ) ≤ (num % den : ℕ) / den := by positivity
  have hbelow : ((num % den : ℕ) : ℚ) / den < 1 := by
    rw [div_lt_one hden]
    exact_mod_cast Nat.mod_lt num h
  -- the rest decides, compared with one half
  have hhalf : ((num % den : ℕ) : ℚ) / den < 1 / 2 ↔ 2 * (num % den) < den := by
    rw [div_lt_iff₀ hden, ← @Nat.cast_lt ℚ]
    push_cast
    constructor <;> intro <;> linarith
  have hother : (1 : ℚ) / 2 < (num % den : ℕ) / den ↔ den < 2 * (num % den) := by
    rw [lt_div_iff₀ hden, ← @Nat.cast_lt ℚ]
    push_cast
    constructor <;> intro <;> linarith
  generalize ((num % den : ℕ) : ℚ) / den = rest at hrest hnonneg hbelow hhalf hother
  obtain rfl : rest = (num : ℚ) / den - (num / den : ℕ) := hrest.symm
  simp only [roundHalfEven]
  split_ifs with hdown hup heven
  · rw [← hhalf] at hdown
    constructor
    · rw [abs_le]; constructor <;> linarith
    · rw [abs_sub_comm, abs_of_nonneg hnonneg]; intro; linarith
  · rw [← hother] at hup
    constructor
    · rw [abs_le]; push_cast; constructor <;> linarith
    · rw [abs_of_nonneg (by push_cast; linarith)]; push_cast; intro; linarith
  · rw [← hhalf] at hdown
    rw [← hother] at hup
    constructor
    · rw [abs_le]; constructor <;> linarith
    · exact fun _ => Nat.even_iff.mpr heven
  · rw [← hhalf] at hdown
    rw [← hother] at hup
    constructor
    · rw [abs_le]; push_cast; constructor <;> linarith
    · intro _; rw [Nat.even_iff]; omega

theorem isNearestEven_natCast (n : ℕ) : IsNearestEven n n where
  near := by rw [sub_self, abs_zero]; norm_num
  even_of_tie := by rw [sub_self, abs_zero]; norm_num

namespace IsNearestEven

variable {x y : ℚ} {m n : ℕ}

/-- Rounding keeps the order. -/
theorem mono (hm : IsNearestEven x m) (hn : IsNearestEven y n) (h : x ≤ y) : m ≤ n := by
  by_contra hlt
  have hnext : n + 1 ≤ m := by omega
  have hgap : (n : ℚ) + 1 ≤ m := by exact_mod_cast hnext
  have hleft := abs_le.mp hm.near
  have hright := abs_le.mp hn.near
  -- both numbers lie half way between the same two integers, of which only one is even
  have hx : (m : ℚ) - x = 1 / 2 := by linarith
  have hy : (n : ℚ) - y = -(1 / 2) := by linarith
  have hm_even : Even m := hm.even_of_tie (by rw [hx]; norm_num)
  have hn_even : Even n := hn.even_of_tie (by rw [hy]; norm_num)
  have heq : m = n + 1 := by
    have hcast : (m : ℚ) = n + 1 := by linarith
    exact_mod_cast hcast
  rw [Nat.even_iff] at hm_even hn_even
  omega

theorem unique (hm : IsNearestEven x m) (hn : IsNearestEven x n) : m = n :=
  le_antisymm (hm.mono hn le_rfl) (hn.mono hm le_rfl)

theorem le_of_le (h : IsNearestEven x n) (hm : (m : ℚ) ≤ x) : m ≤ n :=
  (isNearestEven_natCast m).mono h hm

theorem le_of_ge (h : IsNearestEven x n) (hm : x ≤ m) : n ≤ m :=
  h.mono (isNearestEven_natCast m) hm

end IsNearestEven

theorem roundHalfEven_mono {num other den : ℕ} (hden : 0 < den) (h : num ≤ other) :
    roundHalfEven num den ≤ roundHalfEven other den := by
  refine (isNearestEven_roundHalfEven num hden).mono (isNearestEven_roundHalfEven other hden) ?_
  gcongr

/-- Quotients of one value are rounded to one integer. -/
theorem roundHalfEven_congr {num den other divisor : ℕ} (hden : 0 < den) (hdivisor : 0 < divisor)
    (h : (num : ℚ) / den = other / divisor) :
    roundHalfEven num den = roundHalfEven other divisor :=
  (isNearestEven_roundHalfEven num hden).unique (h ▸ isNearestEven_roundHalfEven other hdivisor)

/-! ### Counts of 53 bits -/

/-- The power of two that a count from `2 ^ 53` on is rounded to a multiple of. -/
def doubleUnit (n : ℕ) : ℕ := 2 ^ (n.log2 - 52)

theorem doubleUnit_pos (n : ℕ) : 0 < doubleUnit n := Nat.two_pow_pos _

theorem nearestDouble_of_lt {n : ℕ} (h : n < 2 ^ 53) : nearestDouble n = n := if_pos h

theorem nearestDouble_of_le_two_pow {n : ℕ} (h : n ≤ 2 ^ 53) : nearestDouble n = n := by
  rcases h.eq_or_lt with rfl | hlt
  · decide
  · exact nearestDouble_of_lt hlt

theorem nearestDouble_of_le {n : ℕ} (h : 2 ^ 53 ≤ n) :
    nearestDouble n = roundHalfEven n (doubleUnit n) * doubleUnit n :=
  if_neg (Nat.not_lt.mpr h)

theorem le_log2 {n : ℕ} (h : 2 ^ 53 ≤ n) : 53 ≤ n.log2 :=
  (Nat.le_log2 (by omega)).mpr h

/-- A count of `k` bits more than 53 has `2 ^ k` as its unit. -/
theorem two_pow_log2 {n : ℕ} (h : 2 ^ 53 ≤ n) : 2 ^ n.log2 = 2 ^ 52 * doubleUnit n := by
  have hlog := le_log2 h
  rw [doubleUnit, ← pow_add]
  congr 1
  omega

/-- The significand of a rounded count has 53 bits, or is the power of two after these. -/
theorem roundHalfEven_doubleUnit_bounds {n : ℕ} (h : 2 ^ 53 ≤ n) :
    2 ^ 52 ≤ roundHalfEven n (doubleUnit n) ∧ roundHalfEven n (doubleUnit n) ≤ 2 ^ 53 := by
  have hunit : (0 : ℚ) < doubleUnit n := Nat.cast_pos.mpr (doubleUnit_pos n)
  have hnearest := isNearestEven_roundHalfEven n (doubleUnit_pos n)
  have hlower : 2 ^ 52 * doubleUnit n ≤ n := two_pow_log2 h ▸ Nat.log2_self_le (by omega)
  have hupper : n < 2 ^ 53 * doubleUnit n := by
    have hlog : n < 2 ^ n.log2 * 2 := pow_succ 2 n.log2 ▸ Nat.lt_log2_self
    rw [two_pow_log2 h] at hlog
    omega
  constructor
  · refine hnearest.le_of_le ?_
    rw [le_div_iff₀ hunit]
    exact_mod_cast hlower
  · refine hnearest.le_of_ge ?_
    rw [div_le_iff₀ hunit]
    exact_mod_cast hupper.le

theorem two_pow_log2_le_nearestDouble {n : ℕ} (h : 2 ^ 53 ≤ n) : 2 ^ n.log2 ≤ nearestDouble n := by
  rw [nearestDouble_of_le h, two_pow_log2 h]
  exact Nat.mul_le_mul_right _ (roundHalfEven_doubleUnit_bounds h).1

theorem nearestDouble_le_two_pow {n : ℕ} (h : 2 ^ 53 ≤ n) : nearestDouble n ≤ 2 ^ (n.log2 + 1) := by
  have hdouble : 2 ^ 52 * doubleUnit n * 2 = 2 ^ 53 * doubleUnit n := by ring
  rw [nearestDouble_of_le h, pow_succ, two_pow_log2 h, hdouble]
  exact Nat.mul_le_mul_right _ (roundHalfEven_doubleUnit_bounds h).2

theorem le_nearestDouble {n : ℕ} (h : 2 ^ 53 ≤ n) : 2 ^ 53 ≤ nearestDouble n :=
  (Nat.pow_le_pow_right (by decide) (le_log2 h)).trans (two_pow_log2_le_nearestDouble h)

/-- Rounding to 53 bits does not move a count across a bound of fewer bits. -/
theorem nearestDouble_le_iff {n bound : ℕ} (h : bound < 2 ^ 53) :
    nearestDouble n ≤ bound ↔ n ≤ bound := by
  rcases Nat.lt_or_ge n (2 ^ 53) with hn | hn
  · rw [nearestDouble_of_lt hn]
  · have hrounded := le_nearestDouble hn
    omega

/-- Rounding to 53 bits keeps the order. -/
theorem nearestDouble_mono {m n : ℕ} (h : m ≤ n) : nearestDouble m ≤ nearestDouble n := by
  rcases Nat.lt_or_ge n (2 ^ 53) with hn | hn
  · rw [nearestDouble_of_lt hn, nearestDouble_of_lt (h.trans_lt hn)]
    exact h
  rcases Nat.lt_or_ge m (2 ^ 53) with hm | hm
  · rw [nearestDouble_of_lt hm]
    exact hm.le.trans (le_nearestDouble hn)
  have hle : m.log2 ≤ n.log2 := (Nat.le_log2 (by omega)).mpr ((Nat.log2_self_le (by omega)).trans h)
  rcases hle.eq_or_lt with hlog | hlog
  · -- counts of one unit are rounded as their quotients by it
    have hunit : doubleUnit m = doubleUnit n := by rw [doubleUnit, hlog, doubleUnit]
    rw [nearestDouble_of_le hm, nearestDouble_of_le hn, hunit]
    exact Nat.mul_le_mul_right _ (roundHalfEven_mono (doubleUnit_pos n) h)
  · -- there is a power of two between counts of different units
    calc nearestDouble m ≤ 2 ^ (m.log2 + 1) := nearestDouble_le_two_pow hm
      _ ≤ 2 ^ n.log2 := Nat.pow_le_pow_right (by decide) hlog
      _ ≤ nearestDouble n := two_pow_log2_le_nearestDouble hn

/-- Rounding to 53 bits moves a count by at most half of its unit. -/
theorem abs_nearestDouble_sub_le {n : ℕ} (h : 2 ^ 53 ≤ n) :
    |(nearestDouble n : ℚ) - n| ≤ doubleUnit n / 2 := by
  have hunit : (0 : ℚ) < doubleUnit n := Nat.cast_pos.mpr (doubleUnit_pos n)
  have hnear := (isNearestEven_roundHalfEven n (doubleUnit_pos n)).near
  have hscale : (nearestDouble n : ℚ) - n
      = (roundHalfEven n (doubleUnit n) - n / doubleUnit n) * doubleUnit n := by
    rw [nearestDouble_of_le h, sub_mul, div_mul_cancel₀ _ hunit.ne']
    push_cast
    rfl
  calc |(nearestDouble n : ℚ) - n|
      = |(roundHalfEven n (doubleUnit n) : ℚ) - n / doubleUnit n| * doubleUnit n := by
        rw [hscale, abs_mul, abs_of_pos hunit]
    _ ≤ 1 / 2 * doubleUnit n := by gcongr
    _ = doubleUnit n / 2 := by ring

/-! ### Counts of 63 bits -/

theorem nearestDouble_le_of_lt {n : ℕ} (h : n < 2 ^ 63) : nearestDouble n ≤ 2 ^ 63 := by
  rcases Nat.lt_or_ge n (2 ^ 53) with hn | hn
  · rw [nearestDouble_of_lt hn]
    exact h.le
  · have hlog : n.log2 < 63 := (Nat.log2_lt (by omega)).mpr h
    exact (nearestDouble_le_two_pow hn).trans (Nat.pow_le_pow_right (by decide) hlog)

theorem abs_nearestDouble_sub_le_of_lt {n : ℕ} (hn : 2 ^ 53 ≤ n) (h : n < 2 ^ 63) :
    |(nearestDouble n : ℚ) - n| ≤ 512 := by
  have hlog : n.log2 < 63 := (Nat.log2_lt (by omega)).mpr h
  have hunit : doubleUnit n ≤ 2 ^ 10 := Nat.pow_le_pow_right (by decide) (by omega)
  have hunit' : (doubleUnit n : ℚ) ≤ 2 ^ 10 := by exact_mod_cast hunit
  calc |(nearestDouble n : ℚ) - n| ≤ doubleUnit n / 2 := abs_nearestDouble_sub_le hn
    _ ≤ 512 := by linarith

end ClusterCapacity.Decimal
