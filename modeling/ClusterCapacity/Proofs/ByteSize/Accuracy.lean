import ClusterCapacity.Proofs.ByteSize.Division
import ClusterCapacity.Proofs.ByteSize.Reading

/-!
# How exact sizes are

`ByteSize.format_accurate`: up to 5120 bytes a size is the count itself, and beyond that it is the
count in the least unit that suits it (`SizeUnit.Suits`), rounded to hundredths; only counts beyond
`2 ^ 53` are rounded twice.  `ByteSize.quantity_format_mono`: sizes denote quantities in the order
of the counts.

A size beyond 5120 bytes is found from the count rounded to 53 bits.  That rounding moves no count
across a limit of a unit, as these are far below `2 ^ 53`, and it is monotone.  The size in one unit
is monotone as well, and the sizes of different units are apart: five of the next unit are the most
that one unit shows (`scaledQuantity_le`) and the least that the next one does
(`le_scaledQuantity`).
-/

namespace ClusterCapacity

open Decimal

/-! ### The unit of a count -/

namespace SizeUnit

/-- Whether a unit is the least of which the count is at most five of the next, the largest unit if
there is none. -/
structure Suits (unit : SizeUnit) (count : ℤ) : Prop where
  within : unit ≠ .peta → count ≤ 5 * 1024 ^ (unit.power + 1)
  least : ∀ smaller : SizeUnit, smaller.power < unit.power →
    5 * 1024 ^ (smaller.power + 1) < count

theorem bytes_eq (unit : SizeUnit) : unit.bytes = 1024 ^ unit.power := rfl

theorem power_injective : Function.Injective power := by
  intro a b h
  cases a <;> cases b <;> first | rfl | exact absurd h (by decide)

theorem power_le (unit : SizeUnit) : unit.power ≤ 5 := by
  cases unit <;> decide

theorem power_le_of_ne {unit : SizeUnit} (h : unit ≠ .peta) : unit.power ≤ 4 := by
  cases unit <;> first | decide | exact absurd rfl h

/-- The limit of every unit below the largest has fewer than 53 bits. -/
theorem limit_lt {power : ℕ} (h : power ≤ 4) : 5 * 1024 ^ (power + 1) < 2 ^ 53 :=
  calc 5 * 1024 ^ (power + 1) ≤ 5 * 1024 ^ (4 + 1) := by gcongr; norm_num
    _ < 2 ^ 53 := by norm_num

variable {count : ℕ}

theorem within_ofCount (h : ofCount count ≠ .peta) :
    count ≤ 5 * 1024 ^ ((ofCount count).power + 1) := by
  revert h
  rw [ofCount]
  split_ifs <;> simp_all [bytes, power]

theorem lt_of_power_lt_ofCount {smaller : SizeUnit} (h : smaller.power < (ofCount count).power) :
    5 * 1024 ^ (smaller.power + 1) < count := by
  revert h
  rw [ofCount]
  split_ifs <;> cases smaller <;> simp_all [bytes, power]

/-- A count beyond 5120 is more than five of its unit. -/
theorem five_mul_bytes_lt (h : 5120 < count) : 5 * (ofCount count).bytes < count := by
  rw [ofCount]
  split_ifs <;> simp_all [bytes, power]

/-- The unit of a count is not less than that of a smaller one. -/
theorem power_ofCount_mono {other : ℕ} (h : count ≤ other) :
    (ofCount count).power ≤ (ofCount other).power := by
  by_contra hlt
  rw [not_le] at hlt
  have hpeta : ofCount other ≠ .peta := by
    intro heq
    have hle := (ofCount count).power_le
    rw [heq] at hlt
    exact absurd hlt (Nat.not_lt.mpr hle)
  have hwithin := within_ofCount hpeta
  have hbeyond := lt_of_power_lt_ofCount hlt
  omega

/-- The limits of the units tell a count from its rounding to 53 bits in no case. -/
theorem suits_ofCount_nearestDouble (n : ℕ) : (ofCount (nearestDouble n)).Suits n := by
  constructor
  · intro hpeta
    have hwithin := within_ofCount hpeta
    rw [nearestDouble_le_iff (limit_lt (power_le_of_ne hpeta))] at hwithin
    exact_mod_cast hwithin
  · intro smaller hsmaller
    have hpower : smaller.power ≤ 4 := by
      have hle := (ofCount (nearestDouble n)).power_le
      omega
    have hbeyond := lt_of_power_lt_ofCount hsmaller
    rw [← not_le, nearestDouble_le_iff (limit_lt hpower), not_le] at hbeyond
    exact_mod_cast hbeyond

end SizeUnit

namespace ByteSize

open SizeUnit (ofCount)

/-! ### Hundredths of a unit -/

variable {n count other : ℕ}

theorem isNearestEven_hundredths (unit : SizeUnit) (count : ℕ) :
    IsNearestEven (100 * ((count : ℚ) / 1024 ^ unit.power)) (hundredths unit count) := by
  have hbytes : 0 < 1024 ^ unit.power := by positivity
  have hround := isNearestEven_roundHalfEven (100 * count) hbytes
  push_cast at hround
  rw [mul_div_assoc] at hround
  exact hround

theorem hundredths_mono (unit : SizeUnit) (h : count ≤ other) :
    hundredths unit count ≤ hundredths unit other :=
  roundHalfEven_mono (Nat.pow_pos (by norm_num)) (Nat.mul_le_mul_left 100 h)

/-- A count of at least so many of a unit shows as no fewer. -/
theorem le_hundredths {unit : SizeUnit} (h : n * unit.bytes ≤ count) :
    100 * n ≤ hundredths unit count := by
  refine (isNearestEven_hundredths unit count).le_of_le ?_
  have hbytes : (0 : ℚ) < 1024 ^ unit.power := by positivity
  rw [SizeUnit.bytes_eq] at h
  push_cast
  gcongr
  rw [le_div_iff₀ hbytes]
  exact_mod_cast h

/-- A count of at most so many of a unit shows as no more. -/
theorem hundredths_le {unit : SizeUnit} (h : count ≤ n * unit.bytes) :
    hundredths unit count ≤ 100 * n := by
  refine (isNearestEven_hundredths unit count).le_of_ge ?_
  have hbytes : (0 : ℚ) < 1024 ^ unit.power := by positivity
  rw [SizeUnit.bytes_eq] at h
  push_cast
  gcongr
  rw [div_le_iff₀ hbytes]
  exact_mod_cast h

/-- A unit below the largest shows at most 5120. -/
theorem hundredths_ofCount_le (h : ofCount count ≠ .peta) :
    hundredths (ofCount count) count ≤ 512000 := by
  refine hundredths_le (n := 5120) ((SizeUnit.within_ofCount h).trans (le_of_eq ?_))
  rw [SizeUnit.bytes_eq, pow_succ]
  ring

/-- Any unit shows at least five. -/
theorem le_hundredths_ofCount (h : 5120 < count) : 500 ≤ hundredths (ofCount count) count :=
  le_hundredths (n := 5) (SizeUnit.five_mul_bytes_lt h).le

/-- A count beyond `2 ^ 53` is rounded twice. -/
theorem abs_hundredths_sub_le (hn : 2 ^ 53 ≤ n) (h : n < 2 ^ 63) :
    |(hundredths .peta (nearestDouble n) : ℚ) / 100 - n / 1024 ^ 5| ≤ 1 / 200 + 1 / 2 ^ 41 := by
  have hshown := (isNearestEven_hundredths .peta (nearestDouble n)).near
  have hcount := abs_nearestDouble_sub_le_of_lt hn h
  rw [abs_le] at hshown hcount ⊢
  simp only [SizeUnit.power] at hshown
  constructor <;> linarith

/-! ### The texts of sizes -/

/-- A size in the unit of its count. -/
def scaledQuantity (count : ℕ) : ℚ :=
  (hundredths (ofCount count) count : ℚ) / 100 * (ofCount count).bytes

variable {bytes : Int64}

theorem format_of_le (h : bytes.toInt ≤ 5120) : format bytes = toString bytes.toInt ++ "B" :=
  if_pos (Int64.le_iff_toInt_le.mpr h)

theorem format_of_lt (h : 5120 < bytes.toInt) :
    format bytes = scaledText (ofCount (nearestDouble bytes.toInt.toNat))
      (hundredths (ofCount (nearestDouble bytes.toInt.toNat))
        (nearestDouble bytes.toInt.toNat)) := by
  have hbytes : ¬ bytes ≤ 5120 := fun hle => absurd (Int64.le_iff_toInt_le.mp hle) (not_le.mpr h)
  exact if_neg hbytes

theorem quantity?_format_of_le (h : bytes.toInt ≤ 5120) :
    quantity? (format bytes) = some (bytes.toInt : ℚ) := by
  rw [format_of_le h, quantity?_plain]

theorem quantity?_format_of_lt (h : 5120 < bytes.toInt) :
    quantity? (format bytes) = some (scaledQuantity (nearestDouble bytes.toInt.toNat)) := by
  rw [format_of_lt h, (isHundredths_scaledText _ _).quantity?_eq, scaledQuantity]

/-! ### Accuracy -/

/-- The size of a count is exact to a hundredth of its unit.  Up to `2 ^ 53` it is the nearest one,
and beyond that it is farther off by no more than `2 ^ -41` of the unit. -/
theorem format_accurate (bytes : Int64) :
    (bytes.toInt ≤ 5120 → format bytes = toString bytes.toInt ++ "B") ∧
    (5120 < bytes.toInt → ∃ (unit : SizeUnit) (h : ℕ),
      unit.Suits bytes.toInt ∧ IsHundredths (format bytes) unit h ∧
      500 ≤ h ∧ h ≤ (if unit = .peta then 819200 else 512000) ∧
      (bytes.toInt ≤ 2 ^ 53 →
        IsNearestEven (100 * ((bytes.toInt : ℚ) / 1024 ^ unit.power)) h) ∧
      (2 ^ 53 < bytes.toInt →
        |(h : ℚ) / 100 - bytes.toInt / 1024 ^ 5| ≤ 1 / 200 + 1 / 2 ^ 41)) ∧
    format bytes = dividedText bytes := by
  refine ⟨format_of_le, fun hlarge => ?_, format_eq_dividedText bytes⟩
  obtain ⟨n, hn⟩ := Int.eq_ofNat_of_zero_le (a := bytes.toInt) (by omega)
  have hbound : n < 2 ^ 63 := by
    have hlt := Int64.toInt_lt bytes
    rw [hn] at hlt
    exact_mod_cast hlt
  have hformat := format_of_lt hlarge
  rw [hn, Int.toNat_natCast] at hformat
  rw [hn, Int.cast_natCast]
  have hcount : 5120 < nearestDouble n := by
    rw [← not_le, nearestDouble_le_iff (by norm_num)]
    omega
  refine ⟨ofCount (nearestDouble n), hundredths (ofCount (nearestDouble n)) (nearestDouble n),
    SizeUnit.suits_ofCount_nearestDouble n, hformat ▸ isHundredths_scaledText _ _,
    le_hundredths_ofCount hcount, ?_, fun hexact => ?_, fun hbeyond => ?_⟩
  · split
    · rename_i hpeta
      rw [hpeta]
      exact hundredths_le (n := 8192) (nearestDouble_le_of_lt hbound)
    · rename_i hsmaller
      exact hundredths_ofCount_le hsmaller
  · have hnearest := isNearestEven_hundredths (ofCount (nearestDouble n)) (nearestDouble n)
    rwa [nearestDouble_of_le_two_pow (n := n) (by exact_mod_cast hexact)] at hnearest ⊢
  · -- no smaller unit holds so many bytes
    have hbeyond' : 2 ^ 53 ≤ n := by exact_mod_cast hbeyond.le
    have hpeta : ofCount (nearestDouble n) = .peta := by
      by_contra hsmaller
      have hwithin := SizeUnit.within_ofCount hsmaller
      have hlimit := SizeUnit.limit_lt (SizeUnit.power_le_of_ne hsmaller)
      have hrounded := le_nearestDouble hbeyond'
      omega
    rw [hpeta]
    exact abs_hundredths_sub_le hbeyond' hbound

/-- A count half way between two hundredths, and the least that is rounded twice. -/
theorem format_accurate_ties :
    (5120 < (5248 : Int64).toInt ∧ (5248 : Int64).toInt ≤ 2 ^ 53 ∧ ∃ (unit : SizeUnit) (h : ℕ),
      unit.Suits 5248 ∧ IsHundredths (format 5248) unit h ∧
      IsNearestEven (100 * (5248 / 1024 ^ unit.power)) h) ∧
    (2 ^ 53 < (9007199254740993 : Int64).toInt ∧ ∃ h : ℕ,
      500 ≤ h ∧ |(h : ℚ) / 100 - 9007199254740993 / 1024 ^ 5| ≤ 1 / 200 + 1 / 2 ^ 41) ∧
    ((-42 : Int64).toInt ≤ 5120 ∧ format (-42) = toString (-42 : ℤ) ++ "B") := by
  refine ⟨⟨by decide, by decide, ?_⟩, ⟨by decide, ?_⟩, ⟨by decide, ?_⟩⟩
  · obtain ⟨-, hlarge, -⟩ := format_accurate 5248
    obtain ⟨unit, h, hsuits, htext, -, -, hnearest, -⟩ := hlarge (by decide)
    exact ⟨unit, h, hsuits, htext, by simpa using hnearest (by decide)⟩
  · obtain ⟨-, hlarge, -⟩ := format_accurate 9007199254740993
    obtain ⟨-, h, -, -, hleast, -, -, hnear⟩ := hlarge (by decide)
    exact ⟨h, hleast, by simpa using hnear (by decide)⟩
  · exact (format_accurate (-42)).1 (by decide)

-- 5.125 kilobytes are half way between 512 and 513 hundredths
example : format 5248 = "5.12KB" := by decide

/-! ### The order of sizes -/

theorem scaledQuantity_eq (count : ℕ) :
    scaledQuantity count
      = (hundredths (ofCount count) count : ℚ) * 1024 ^ (ofCount count).power / 100 := by
  rw [scaledQuantity, SizeUnit.bytes_eq]
  push_cast
  ring

/-- The size of a count is at least five of its unit. -/
theorem le_scaledQuantity (h : 5120 < count) :
    5 * 1024 ^ (ofCount count).power ≤ scaledQuantity count := by
  have hleast : (500 : ℚ) ≤ hundredths (ofCount count) count := by
    exact_mod_cast le_hundredths_ofCount h
  rw [scaledQuantity_eq, le_div_iff₀ (by norm_num)]
  calc (5 : ℚ) * 1024 ^ (ofCount count).power * 100 = 500 * 1024 ^ (ofCount count).power := by ring
    _ ≤ hundredths (ofCount count) count * 1024 ^ (ofCount count).power := by gcongr

/-- The size of a count is at most five of the next unit, if there is one. -/
theorem scaledQuantity_le (h : ofCount count ≠ .peta) :
    scaledQuantity count ≤ 5 * 1024 ^ ((ofCount count).power + 1) := by
  have hmost : (hundredths (ofCount count) count : ℚ) ≤ 512000 := by
    exact_mod_cast hundredths_ofCount_le h
  rw [scaledQuantity_eq, div_le_iff₀ (by norm_num)]
  calc (hundredths (ofCount count) count : ℚ) * 1024 ^ (ofCount count).power
      ≤ 512000 * 1024 ^ (ofCount count).power := by gcongr
    _ = 5 * 1024 ^ ((ofCount count).power + 1) * 100 := by ring

theorem scaledQuantity_mono (hcount : 5120 < count) (h : count ≤ other) :
    scaledQuantity count ≤ scaledQuantity other := by
  rcases (SizeUnit.power_ofCount_mono h).eq_or_lt with hpower | hpower
  · -- in one unit rounding decides
    have hunit := SizeUnit.power_injective hpower
    have hmono : (hundredths (ofCount other) count : ℚ) ≤ hundredths (ofCount other) other := by
      exact_mod_cast hundredths_mono (ofCount other) h
    rw [scaledQuantity, scaledQuantity, hunit]
    gcongr
  · -- five of a unit are between counts of different units
    have hpeta : ofCount count ≠ .peta := by
      intro heq
      have hle := (ofCount other).power_le
      rw [heq] at hpower
      exact absurd hpower (Nat.not_lt.mpr hle)
    calc scaledQuantity count ≤ 5 * 1024 ^ ((ofCount count).power + 1) := scaledQuantity_le hpeta
      _ ≤ 5 * 1024 ^ (ofCount other).power := by
        gcongr
        · norm_num
        · exact hpower
      _ ≤ scaledQuantity other := le_scaledQuantity (hcount.trans_le h)

/-- The size of a greater count denotes no smaller quantity. -/
theorem quantity_format_mono {a b : Int64} (h : a ≤ b) :
    ∃ x y : ℚ, quantity? (format a) = some x ∧ quantity? (format b) = some y ∧ x ≤ y := by
  rw [Int64.le_iff_toInt_le] at h
  rcases le_or_gt b.toInt 5120 with hb | hb
  · exact ⟨a.toInt, b.toInt, quantity?_format_of_le (h.trans hb), quantity?_format_of_le hb,
      by exact_mod_cast h⟩
  have hlarge {bytes : Int64} (hbytes : 5120 < bytes.toInt) :
      5120 < nearestDouble bytes.toInt.toNat := by
    rw [← not_le, nearestDouble_le_iff (by norm_num)]
    omega
  rcases le_or_gt a.toInt 5120 with ha | ha
  · refine ⟨a.toInt, _, quantity?_format_of_le ha, quantity?_format_of_lt hb, ?_⟩
    have hkilo : 1 ≤ (ofCount (nearestDouble b.toInt.toNat)).power := by
      cases ofCount (nearestDouble b.toInt.toNat) <;> decide
    have ha' : (a.toInt : ℚ) ≤ 5120 := by exact_mod_cast ha
    calc (a.toInt : ℚ) ≤ 5 * 1024 ^ 1 := by linarith
      _ ≤ 5 * 1024 ^ (ofCount (nearestDouble b.toInt.toNat)).power := by gcongr; norm_num
      _ ≤ scaledQuantity (nearestDouble b.toInt.toNat) := le_scaledQuantity (hlarge hb)
  · exact ⟨_, _, quantity?_format_of_lt ha, quantity?_format_of_lt hb,
      scaledQuantity_mono (hlarge ha) (nearestDouble_mono (Int.toNat_le_toNat h))⟩

/-- The greatest size in kilobytes and the least in megabytes. -/
theorem quantity_format_mono_units : (5242880 : Int64) ≤ 5242881 ∧ ∃ x y : ℚ,
    quantity? (format 5242880) = some x ∧ quantity? (format 5242881) = some y ∧ x ≤ y :=
  ⟨by decide, quantity_format_mono (by decide)⟩

end ByteSize

end ClusterCapacity
