import ClusterCapacity.Report.Basic
import Mathlib

/-!
# Percentages are exact

`percentage_exact`: the used percentage is the exact quotient cut off toward zero and clamped to 64
bits, and the free percentage is what is left of one hundred.  The quotient is told apart from all
other integers by its size and its sign (`Percentage.IsTruncated`).  It fits in 128 bits, so a
division of 128-bit numbers gives the same (`Percentage.toInt_wideQuotient`).

Used bytes that are not negative have the floor of the quotient as their percentage, so that a
percentage is compared by products (`Percentage.le_truncated_iff`).
-/

namespace ClusterCapacity

namespace Percentage

/-! ### The quotient cut off toward zero -/

/-- The percentage before it is clamped. -/
def truncated (used capacity : ℤ) : ℤ := Int.tdiv (100 * used) capacity

/-- Whether `t` is the exact percentage cut off toward zero. -/
structure IsTruncated (used capacity t : ℤ) : Prop where
  lower : |t| * |capacity| ≤ 100 * |used|
  upper : 100 * |used| < (|t| + 1) * |capacity|
  sign : t ≠ 0 → t.sign = (used * capacity).sign

variable {used capacity : ℤ}

theorem isTruncated_truncated (used : ℤ) (h : capacity ≠ 0) :
    IsTruncated used capacity (truncated used capacity) := by
  have habs : |truncated used capacity| = ((100 * used.natAbs / capacity.natAbs : ℕ) : ℤ) := by
    rw [truncated, Int.abs_eq_natAbs, Int.natAbs_tdiv, Int.natAbs_mul]
    rfl
  have hcapacity : 0 < capacity.natAbs := Int.natAbs_pos.mpr h
  constructor
  · rw [habs, Int.abs_eq_natAbs, Int.abs_eq_natAbs]
    exact_mod_cast Nat.div_mul_le_self _ _
  · have hupper := Nat.lt_mul_div_succ (100 * used.natAbs) hcapacity
    rw [habs, Int.abs_eq_natAbs, Int.abs_eq_natAbs, mul_comm _ (capacity.natAbs : ℤ)]
    exact_mod_cast hupper
  · intro hne
    have hsign := Int.sign_tdiv (100 * used) capacity
    split at hsign
    · exact absurd (Int.sign_eq_zero_iff_zero.mp hsign) hne
    · have hhundred : Int.sign 100 = 1 := rfl
      rw [truncated, hsign, Int.sign_mul, Int.sign_mul, hhundred, one_mul]

/-- Size and sign leave one integer only. -/
theorem IsTruncated.unique {s t : ℤ} (hs : IsTruncated used capacity s)
    (ht : IsTruncated used capacity t) : s = t := by
  have hle {s t : ℤ} (hs : IsTruncated used capacity s) (ht : IsTruncated used capacity t) :
      |s| ≤ |t| := by
    have hlt := lt_of_mul_lt_mul_right (hs.lower.trans_lt ht.upper) (abs_nonneg capacity)
    omega
  have habs : |s| = |t| := le_antisymm (hle hs ht) (hle ht hs)
  rcases eq_or_ne t 0 with rfl | hne
  · rwa [abs_zero, abs_eq_zero] at habs
  · have hne' : s ≠ 0 := by rwa [ne_eq, ← abs_eq_zero, habs, abs_eq_zero]
    rw [← Int.sign_mul_abs s, ← Int.sign_mul_abs t, hs.sign hne', ht.sign hne, habs]

/-! ### The division in 128 bits -/

/-- A number widened to 128 bits. -/
def widened (number : Int64) : BitVec 128 := number.toBitVec.signExtend 128

/-- The hundredfold of a number, in 128 bits. -/
def wideProduct (used : Int64) : BitVec 128 := 100#128 * widened used

/-- The percentage before it is clamped, in 128 bits. -/
def wideQuotient (used capacity : Int64) : BitVec 128 := (wideProduct used).sdiv (widened capacity)

theorem toInt_widened (number : Int64) : (widened number).toInt = number.toInt :=
  BitVec.toInt_signExtend_of_le (by decide)

theorem smulOverflow_widened (used : Int64) :
    BitVec.smulOverflow 100#128 (widened used) = false := by
  have hlower := Int64.le_toInt used
  have hupper := Int64.toInt_lt used
  have hhundred : (100#128).toInt = 100 := by decide
  simp only [BitVec.smulOverflow, hhundred, toInt_widened, Bool.or_eq_false_iff,
    decide_eq_false_iff_not]
  omega

theorem toInt_wideProduct (used : Int64) : (wideProduct used).toInt = 100 * used.toInt := by
  have hhundred : (100#128).toInt = 100 := by decide
  rw [wideProduct, BitVec.toInt_mul_of_not_smulOverflow (by simp [smulOverflow_widened]), hhundred,
    toInt_widened]

/-- The hundredfold of a number is not the one number whose quotient can overflow. -/
theorem wideProduct_ne_intMin (used : Int64) : wideProduct used ≠ BitVec.intMin 128 := by
  intro heq
  have hlower := Int64.le_toInt used
  have hvalue := toInt_wideProduct used
  have hmin : (BitVec.intMin 128).toInt = -2 ^ 127 := by decide
  rw [heq, hmin] at hvalue
  omega

theorem sdivOverflow_wideProduct (used capacity : Int64) :
    BitVec.sdivOverflow (wideProduct used) (widened capacity) = false := by
  rw [BitVec.sdivOverflow_eq]
  simp [wideProduct_ne_intMin]

theorem toInt_wideQuotient (used capacity : Int64) :
    (wideQuotient used capacity).toInt = truncated used.toInt capacity.toInt := by
  rw [wideQuotient, BitVec.toInt_sdiv_of_ne_or_ne _ _ (.inl (wideProduct_ne_intMin used)),
    toInt_wideProduct, toInt_widened, truncated]

/-! ### The clamped percentage -/

theorem toInt_ofIntClamp (value : ℤ) :
    (Int64.ofIntClamp value).toInt = max (-2 ^ 63) (min value (2 ^ 63 - 1)) := by
  rw [Int64.ofIntClamp]
  split_ifs with hlower hupper
  · rw [Int64.toInt_ofIntLE]
    rw [Int64.toInt_minValue] at hlower
    rw [Int64.toInt_maxValue] at hupper
    omega
  · rw [Int64.toInt_maxValue] at hupper ⊢
    omega
  · rw [Int64.toInt_minValue] at hlower ⊢
    omega

theorem toInt_ne_zero {number : Int64} (h : number ≠ 0) : number.toInt ≠ 0 :=
  fun heq => h (Int64.toInt_inj.mp heq)

theorem ne_zero_of_pos {number : Int64} (h : 0 < number) : number ≠ 0 := by
  rintro rfl
  exact Int64.lt_irrefl h

theorem used_eq_none_iff {used capacity : Int64} :
    Percentage.used used capacity = none ↔ capacity = 0 := by
  rw [Percentage.used]
  split <;> simp [*]

/-- A capacity has a percentage, which is the quotient clamped to 64 bits. -/
theorem exists_used (used : Int64) {capacity : Int64} (h : capacity ≠ 0) :
    ∃ percentage, Percentage.used used capacity = some percentage ∧
      percentage.toInt
        = max (-2 ^ 63) (min (truncated used.toInt capacity.toInt) (2 ^ 63 - 1)) :=
  ⟨_, if_neg h, toInt_ofIntClamp _⟩

/-- Percentages are in the order of their quotients. -/
theorem used_le_used {used capacity other otherCapacity : Int64} (h : capacity ≠ 0)
    (hother : otherCapacity ≠ 0)
    (hle : truncated used.toInt capacity.toInt ≤ truncated other.toInt otherCapacity.toInt) :
    ∃ p q, Percentage.used used capacity = some p ∧
      Percentage.used other otherCapacity = some q ∧ p ≤ q := by
  obtain ⟨p, hp, hpvalue⟩ := exists_used used h
  obtain ⟨q, hq, hqvalue⟩ := exists_used other hother
  refine ⟨p, q, hp, hq, Int64.le_iff_toInt_le.mpr ?_⟩
  rw [hpvalue, hqvalue]
  omega

/-! ### Used bytes that are not negative -/

theorem le_truncated_iff {n : ℤ} (hused : 0 ≤ used) (hcapacity : 0 < capacity) :
    n ≤ truncated used capacity ↔ n * capacity ≤ 100 * used := by
  rw [truncated, Int.tdiv_eq_ediv_of_nonneg (by omega), Int.le_ediv_iff_mul_le hcapacity]

theorem truncated_nonneg (hused : 0 ≤ used) (hcapacity : 0 < capacity) :
    0 ≤ truncated used capacity :=
  (le_truncated_iff hused hcapacity).mpr (by omega)

theorem truncated_mono {other : ℤ} (hcapacity : 0 < capacity) (h : used ≤ other) :
    truncated used capacity ≤ truncated other capacity :=
  Int.tdiv_le_tdiv hcapacity (by omega)

theorem truncated_anti {other : ℤ} (hused : 0 ≤ used) (hcapacity : 0 < capacity)
    (h : capacity ≤ other) : truncated used other ≤ truncated used capacity := by
  have hother := hcapacity.trans_le h
  have hnonneg := truncated_nonneg hused hother
  rw [le_truncated_iff hused hcapacity]
  calc truncated used other * capacity ≤ truncated used other * other := by gcongr
    _ ≤ 100 * used := (le_truncated_iff hused hother).mp le_rfl

/-- A part has from nothing to all of one hundred. -/
theorem truncated_bounds (hused : 0 ≤ used) (h : used ≤ capacity) (hcapacity : 0 < capacity) :
    0 ≤ truncated used capacity ∧ truncated used capacity ≤ 100 ∧
      (truncated used capacity = 100 ↔ used = capacity) := by
  have hnonneg := truncated_nonneg hused hcapacity
  have habove : ¬ 101 ≤ truncated used capacity := by
    rw [le_truncated_iff hused hcapacity]
    omega
  have hwhole : 100 ≤ truncated used capacity ↔ 100 * capacity ≤ 100 * used :=
    le_truncated_iff hused hcapacity
  omega

/-- A clamped percentage reaches a 64-bit number just if the quotient does. -/
theorem le_used_iff {used capacity p : Int64} (hused : 0 ≤ used) (hcapacity : 0 < capacity)
    (hp : Percentage.used used capacity = some p) {n : ℤ} (hn : n < 2 ^ 63) :
    n ≤ p.toInt ↔ n * capacity.toInt ≤ 100 * used.toInt := by
  obtain ⟨other, hother, hvalue⟩ := exists_used used (ne_zero_of_pos hcapacity)
  obtain rfl : p = other := Option.some.inj (hp.symm.trans hother)
  rw [Int64.le_iff_toInt_le] at hused
  rw [Int64.lt_iff_toInt_lt] at hcapacity
  have hnonneg := truncated_nonneg hused hcapacity
  rw [← le_truncated_iff hused hcapacity, hvalue]
  omega

/-! ### Free percentages -/

theorem toInt_free (used : Int64) :
    (free used).toInt = min (100 - used.toInt) (2 ^ 63 - 1) := by
  have hupper := Int64.toInt_lt used
  rw [free, toInt_ofIntClamp]
  omega

end Percentage

open Percentage (IsTruncated truncated widened wideProduct wideQuotient)

namespace Totals

variable {totals : Totals}

theorem isSome_freePercentage (totals : Totals) :
    totals.freePercentage.isSome = totals.usedPercentage.isSome := by
  rw [freePercentage, Option.isSome_map]

theorem eq_free_of_mem {p f : Int64} (hp : p ∈ totals.usedPercentage)
    (hf : f ∈ totals.freePercentage) : f = Percentage.free p := by
  rw [freePercentage, Option.mem_def.mp hp] at hf
  exact (Option.some.inj hf).symm

/-- Totals that use a part of their capacity have percentages that are parts of one hundred. -/
theorem percentages_of_part (hused : 0 ≤ totals.used) (h : totals.used ≤ totals.capacity)
    (hcapacity : 0 < totals.capacity) :
    ∃ p f, totals.usedPercentage = some p ∧ totals.freePercentage = some f ∧
      0 ≤ p.toInt ∧ p.toInt ≤ 100 ∧ 0 ≤ f.toInt ∧ f.toInt ≤ 100 ∧
      p.toInt + f.toInt = 100 ∧ (p.toInt = 100 ↔ totals.used = totals.capacity) := by
  obtain ⟨p, hp, hvalue⟩ :=
    Percentage.exists_used totals.used (Percentage.ne_zero_of_pos hcapacity)
  have hbounds := Percentage.truncated_bounds (Int64.le_iff_toInt_le.mp hused)
    (Int64.le_iff_toInt_le.mp h) (Int64.lt_iff_toInt_lt.mp hcapacity)
  have hfree := Percentage.toInt_free p
  refine ⟨p, Percentage.free p, hp, by rw [freePercentage, usedPercentage, hp, Option.map_some], ?_⟩
  rw [← Int64.toInt_inj]
  omega

end Totals

/-- Percentages are exact and total: the used percentage is the quotient cut off toward zero and
clamped, which 128 bits hold at every step, the free percentage is its complement, and both are
ordered as the bytes are. -/
theorem percentage_exact (used capacity : Int64) (totals : Totals) :
    (Percentage.used used capacity = none ↔ capacity = 0) ∧
    (capacity ≠ 0 → ∃ (t : ℤ) (percentage : Int64),
      IsTruncated used.toInt capacity.toInt t ∧
      (∀ other, IsTruncated used.toInt capacity.toInt other → other = t) ∧
      Percentage.used used capacity = some percentage ∧
      percentage.toInt = max (-2 ^ 63) (min t (2 ^ 63 - 1)) ∧
      BitVec.smulOverflow 100#128 (widened used) = false ∧
      BitVec.sdivOverflow (wideProduct used) (widened capacity) = false ∧
      (wideQuotient used capacity).toInt = t) ∧
    totals.freePercentage.isSome = totals.usedPercentage.isSome ∧
    (∀ p ∈ totals.usedPercentage, ∀ f ∈ totals.freePercentage,
      (100 - (2 ^ 63 - 1) ≤ p.toInt → p.toInt + f.toInt = 100) ∧
      (p.toInt < 100 - (2 ^ 63 - 1) → f.toInt = 2 ^ 63 - 1)) ∧
    (0 ≤ totals.used → totals.used ≤ totals.capacity → 0 < totals.capacity →
      ∃ p f, totals.usedPercentage = some p ∧ totals.freePercentage = some f ∧
        0 ≤ p.toInt ∧ p.toInt ≤ 100 ∧ 0 ≤ f.toInt ∧ f.toInt ≤ 100 ∧
        (p.toInt = 100 ↔ totals.used = totals.capacity)) ∧
    (0 < capacity → ∀ other, used ≤ other → ∃ p q, Percentage.used used capacity = some p ∧
      Percentage.used other capacity = some q ∧ p ≤ q) ∧
    (0 ≤ used → 0 < capacity → ∀ other, capacity ≤ other → ∃ p q,
      Percentage.used used capacity = some p ∧ Percentage.used used other = some q ∧ q ≤ p) := by
  refine ⟨Percentage.used_eq_none_iff, fun h => ?quotient, totals.isSome_freePercentage,
    fun p hp f hf => ?complement, fun hused h hcapacity => ?part,
    fun hcapacity other h => ?mono, fun hused hcapacity other h => ?anti⟩
  case quotient =>
    have htruncated := Percentage.isTruncated_truncated used.toInt (Percentage.toInt_ne_zero h)
    obtain ⟨percentage, hpercentage, hvalue⟩ := Percentage.exists_used used h
    exact ⟨_, percentage, htruncated, fun other hother => hother.unique htruncated, hpercentage,
      hvalue, Percentage.smulOverflow_widened used,
      Percentage.sdivOverflow_wideProduct used capacity,
      Percentage.toInt_wideQuotient used capacity⟩
  case complement =>
    have hvalue := Percentage.toInt_free p
    rw [Totals.eq_free_of_mem hp hf]
    omega
  case part =>
    obtain ⟨p, f, hp, hf, hp_nonneg, hp_le, hf_nonneg, hf_le, -, hwhole⟩ :=
      Totals.percentages_of_part hused h hcapacity
    exact ⟨p, f, hp, hf, hp_nonneg, hp_le, hf_nonneg, hf_le, hwhole⟩
  case mono =>
    have hne := Percentage.ne_zero_of_pos hcapacity
    rw [Int64.lt_iff_toInt_lt] at hcapacity
    exact Percentage.used_le_used hne hne
      (Percentage.truncated_mono hcapacity (Int64.le_iff_toInt_le.mp h))
  case anti =>
    have hne := Percentage.ne_zero_of_pos hcapacity
    have hother := Percentage.ne_zero_of_pos (Int64.lt_of_lt_of_le hcapacity h)
    rw [Int64.lt_iff_toInt_lt] at hcapacity
    obtain ⟨p, q, hp, hq, hle⟩ := Percentage.used_le_used hother hne
      (Percentage.truncated_anti (Int64.le_iff_toInt_le.mp hused) hcapacity
        (Int64.le_iff_toInt_le.mp h))
    exact ⟨q, p, hq, hp, hle⟩

/-- The least number by minus one, clamped, and totals of which nothing is left. -/
theorem percentage_exact_extremes :
    (∃ (t : ℤ) (percentage : Int64), (-1 : Int64) ≠ 0 ∧
      IsTruncated Int64.minValue.toInt (-1 : Int64).toInt t ∧
      Percentage.used Int64.minValue (-1) = some percentage ∧
      percentage.toInt = max (-2 ^ 63) (min t (2 ^ 63 - 1)) ∧
      (wideQuotient Int64.minValue (-1)).toInt = t) ∧
    (∃ p f, Totals.usedPercentage { used := 300, capacity := 300 } = some p ∧
      Totals.freePercentage { used := 300, capacity := 300 } = some f ∧ p.toInt = 100) ∧
    ∃ p q, Percentage.used 7 3 = some p ∧ Percentage.used 7 4 = some q ∧ q ≤ p := by
  refine ⟨?_, ?_, ?_⟩
  · obtain ⟨-, hquotient, -⟩ := percentage_exact Int64.minValue (-1) {}
    obtain ⟨t, percentage, htruncated, -, hpercentage, hvalue, -, -, hwide⟩ :=
      hquotient (by decide)
    exact ⟨t, percentage, by decide, htruncated, hpercentage, hvalue, hwide⟩
  · obtain ⟨-, -, -, -, hpart, -⟩ := percentage_exact 0 1 { used := 300, capacity := 300 }
    obtain ⟨p, f, hp, hf, -, -, -, -, hwhole⟩ := hpart (by decide) (by decide) (by decide)
    exact ⟨p, f, hp, hf, hwhole.mpr rfl⟩
  · obtain ⟨-, -, -, -, -, -, hanti⟩ := percentage_exact 7 3 {}
    exact hanti (by decide) (by decide) 4 (by decide)

end ClusterCapacity
