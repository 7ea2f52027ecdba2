import ClusterCapacity.Json.Printer
import ClusterCapacity.Proofs.Json.Lexical

/-!
# Numbers are read back

A numeral is what a scan finds in its text, as long as no digit, point or exponent follows
(`Numeral.scan_append`).  A plain literal of a 64-bit number has as value the integer that its
digits denote (`Numeral.integer?_of_isPlain`).  The numeral of an integer (`Numeral.ofInt`) is such
a literal, and it is what the printed integer is, so the value is the integer again
(`Numeral.value_ofInt`).
-/

namespace ClusterCapacity.Json

open Decimal

/-- What follows a number does not go on with it. -/
def EndsNumber (rest : List Char) : Prop :=
  ∀ c ∈ rest.head?, c.isDigit = false ∧ c ≠ '.' ∧ c ≠ 'e' ∧ c ≠ 'E'

theorem endsNumber_nil : EndsNumber [] := by
  simp [EndsNumber]

theorem endsNumber_cons {c : Char} (h : c ∈ [',', ':', ']', '}']) (rest : List Char) :
    EndsNumber (c :: rest) := by
  intro other hother
  obtain rfl : c = other := by simpa using hother
  simp only [List.mem_cons, List.not_mem_nil, or_false] at h
  rcases h with rfl | rfl | rfl | rfl <;> decide

namespace Numeral

/-- The numeral of an integer. -/
def ofInt (value : Int) : Numeral := ⟨decide (value < 0), Nat.toDigits 10 value.natAbs, none, none⟩

/-! ### The digits of a number -/

theorem isDigit_toDigits {value : Nat} {c : Char} (h : c ∈ Nat.toDigits 10 value) :
    c.isDigit = true :=
  Nat.isDigit_of_mem_toDigits (by decide) (by decide) h

theorem digitsValue_toDigits (value : Nat) : digitsValue (Nat.toDigits 10 value) = value :=
  Nat.ofDigitChars_ten_toDigits

/-- A number of several digits does not begin with a zero. -/
theorem head?_toDigits_ne_zero {value : Nat} (h : 0 < value) :
    (Nat.toDigits 10 value).head? ≠ some '0' := by
  induction value using Nat.strongRecOn with
  | _ value ih =>
    rw [Nat.toDigits_eq_if (by decide)]
    split
    · rename_i hsmall
      have hdigit : ∀ digit < 10, 0 < digit → digit.digitChar ≠ '0' := by decide
      simpa using hdigit value hsmall h
    · have hhead := ih (value / 10) (by omega) (by omega)
      cases hdigits : Nat.toDigits 10 (value / 10) with
      | nil => exact absurd hdigits Nat.toDigits_ne_nil
      | cons c digits =>
        rw [hdigits] at hhead
        exact hhead

theorem decimal_eq (value : Int) :
    decimal value
      = if value < 0 then '-' :: Nat.toDigits 10 value.natAbs
        else Nat.toDigits 10 value.natAbs := by
  cases value with
  | ofNat value =>
    have hnonneg : ¬ Int.ofNat value < 0 := Int.not_lt.mpr (Int.natCast_nonneg value)
    rw [if_neg hnonneg]
    exact Nat.toList_repr
  | negSucc value =>
    rw [if_pos (Int.negSucc_lt_zero value)]
    have hrepr : toString (Int.negSucc value) = "-" ++ (value + 1).repr := rfl
    rw [decimal, hrepr, String.toList_append, Nat.toList_repr]
    rfl

/-! ### Scanning -/

variable {rest : List Char}

theorem scanDigits_append {digits : List Char} (h : IsDigits digits)
    (hrest : ∀ c ∈ rest.head?, c.isDigit = false) :
    scanDigits (digits ++ rest) = .ok (digits, rest) := by
  have htake : rest.takeWhile Char.isDigit = [] := by
    cases rest with
    | nil => rfl
    | cons c rest => rw [List.takeWhile_cons, hrest c rfl]; rfl
  have hdrop : rest.dropWhile Char.isDigit = rest := by
    cases rest with
    | nil => rfl
    | cons c rest => rw [List.dropWhile_cons, hrest c rfl]; rfl
  simp only [scanDigits, List.takeWhile_append_of_pos h.2, htake, List.append_nil,
    List.dropWhile_append_of_pos h.2, hdrop]
  simp [h.1]

theorem scanWhole_append {whole : List Char} (h : IsDigits whole)
    (hzero : whole.head? = some '0' → whole.length = 1)
    (hrest : ∀ c ∈ rest.head?, c.isDigit = false) :
    scanWhole (whole ++ rest) = .ok (whole, rest) := by
  have halone : (whole.head? = some '0' && whole.length ≠ 1) = false := by
    by_cases hhead : whole.head? = some '0'
    · simp [hzero hhead]
    · simp [hhead]
  simp only [scanWhole, scanDigits_append h hrest, bind, Except.bind, halone]
  rfl

theorem scanFraction_append {fraction : Option (List Char)} {places : List Char}
    (h : FractionWritten fraction places)
    (hrest : ∀ c ∈ rest.head?, c.isDigit = false ∧ c ≠ '.') :
    scanFraction (places ++ rest) = .ok (fraction, rest) := by
  cases h with
  | none =>
    rw [List.nil_append]
    unfold scanFraction
    split
    · exact absurd rfl (hrest '.' rfl).2
    · rfl
  | some h =>
    have hdigits := scanDigits_append h fun c hc => (hrest c hc).1
    simp only [List.cons_append, scanFraction, hdigits, bind, Except.bind]

/-- A sign is taken where digits follow. -/
theorem scanSign_append {negative : Bool} {sign digits : List Char} (h : SignWritten negative sign)
    (hdigits : IsDigits digits) (rest : List Char) :
    scanSign (sign ++ (digits ++ rest)) = (negative, digits ++ rest) := by
  obtain ⟨c, others, rfl⟩ := List.exists_cons_of_ne_nil hdigits.1
  have hc : c.isDigit = true := hdigits.2 c List.mem_cons_self
  have hunsigned : scanSign (c :: (others ++ rest)) = (false, c :: (others ++ rest)) := by
    unfold scanSign
    split
    · exact absurd hc (by simp_all)
    · exact absurd hc (by simp_all)
    · rfl
  cases negative with
  | true =>
    obtain rfl : sign = ['-'] := h
    rfl
  | false =>
    obtain rfl | rfl : sign = [] ∨ sign = ['+'] := h
    · exact hunsigned
    · rfl

theorem scanExponent_append {exponent : Option Exponent} {power : List Char}
    (h : ExponentWritten exponent power) (hrest : EndsNumber rest) :
    scanExponent (power ++ rest) = .ok (exponent, rest) := by
  cases h with
  | none =>
    rw [List.nil_append]
    unfold scanExponent
    split
    · rfl
    · rename_i c rest
      simp [(hrest c rfl).2.2]
  | @some negative digits letter sign hletter hsign h =>
    have hdigits := scanDigits_append h fun c hc => (hrest c hc).1
    simp only [List.cons_append, List.append_assoc, scanExponent, scanSign_append hsign h, hdigits,
      bind, Except.bind]
    simp [hletter]

/-- Neither a fraction nor an exponent begins with a digit. -/
theorem head?_places_append {fraction : Option (List Char)} {places : List Char}
    (h : FractionWritten fraction places) (hrest : ∀ c ∈ rest.head?, c.isDigit = false) :
    ∀ c ∈ (places ++ rest).head?, c.isDigit = false := by
  cases h with
  | none => exact hrest
  | some =>
    rintro c hc
    obtain rfl : '.' = c := by simpa using hc
    rfl

theorem head?_power_append {exponent : Option Exponent} {power : List Char}
    (h : ExponentWritten exponent power) (hrest : EndsNumber rest) :
    ∀ c ∈ (power ++ rest).head?, c.isDigit = false ∧ c ≠ '.' := by
  cases h with
  | none => exact fun c hc => ⟨(hrest c hc).1, (hrest c hc).2.1⟩
  | some hletter =>
    rintro c hc
    obtain rfl := Option.some.inj hc
    rcases hletter with rfl | rfl <;> decide

/-- A numeral is scanned from its text. -/
theorem scan_append {numeral : Numeral} {text : List Char} (h : NumeralWritten numeral text)
    (hrest : EndsNumber rest) : scan (text ++ rest) = .ok (numeral, rest) := by
  obtain @⟨negative, whole, fraction, exponent, places, power, hwhole, hzero, hplaces, hpower⟩ := h
  have hafter := head?_power_append hpower hrest
  have hunsigned : scanUnsigned negative (whole ++ (places ++ (power ++ rest)))
      = .ok (⟨negative, whole, fraction, exponent⟩, rest) := by
    have hdigits := scanWhole_append hwhole hzero
      (head?_places_append hplaces fun c hc => (hafter c hc).1)
    simp only [scanUnsigned, hdigits, scanFraction_append hplaces hafter,
      scanExponent_append hpower hrest, bind, Except.bind]
  simp only [List.append_assoc]
  cases negative with
  | true => exact hunsigned
  | false =>
    -- a digit is no sign
    obtain ⟨c, others, rfl⟩ := List.exists_cons_of_ne_nil hwhole.1
    have hc : c ≠ '-' := by
      rintro rfl
      exact absurd (hwhole.2 '-' List.mem_cons_self) (by decide)
    show scan (c :: (others ++ (places ++ (power ++ rest)))) = _
    unfold scan
    split
    · rename_i heq
      exact absurd (List.cons.inj heq).1 hc
    · exact hunsigned

/-- A printed integer is its numeral. -/
theorem numeralWritten_decimal (value : Int) : NumeralWritten (ofInt value) (decimal value) := by
  have hdigits : IsDigits (Nat.toDigits 10 value.natAbs) :=
    ⟨Nat.toDigits_ne_nil, fun _ => isDigit_toDigits⟩
  have hzero : (Nat.toDigits 10 value.natAbs).head? = some '0' →
      (Nat.toDigits 10 value.natAbs).length = 1 := by
    intro hhead
    rcases Nat.eq_zero_or_pos value.natAbs with hnull | hpos
    · rw [hnull]
      rfl
    · exact absurd hhead (head?_toDigits_ne_zero hpos)
  have hwritten : NumeralWritten ⟨decide (value < 0), Nat.toDigits 10 value.natAbs, none, none⟩ _ :=
    .intro hdigits hzero .none .none
  rw [List.append_nil] at hwritten
  rw [decimal_eq, ofInt]
  by_cases hnegative : value < 0 <;> simpa [hnegative] using hwritten

/-! ### Values -/

/-- The integer that the digits before the point denote with their sign. -/
def signed (numeral : Numeral) : Int :=
  if numeral.negative then -(digitsValue numeral.whole : Int) else digitsValue numeral.whole

/-- Whether a numeral is a plain literal: digits alone, and no sign in front of zero. -/
structure IsPlain (numeral : Numeral) : Prop where
  fraction : numeral.fraction = none
  exponent : numeral.exponent = none
  zero : numeral.negative = true → numeral.signed ≠ 0

variable {numeral : Numeral} {value : Int}

/-- A plain literal is an integer where it is a 64-bit number. -/
theorem integer?_of_isPlain (h : numeral.IsPlain) (hfits : fitsInt64 numeral.signed = true) :
    numeral.integer? = some numeral.signed := by
  obtain ⟨negative, whole, fraction, exponent⟩ := numeral
  obtain ⟨rfl, rfl, hzero⟩ := h
  cases negative with
  | true =>
    have hvalue : digitsValue whole ≠ 0 := fun heq => hzero rfl (by simp [signed, heq])
    have hnegative : fitsInt64 (-(digitsValue whole : Int)) = true := hfits
    simp [integer?, signed, hvalue, hnegative]
  | false =>
    have hbounds : fitsInt64 (digitsValue whole : Int) = true := hfits
    simp only [fitsInt64, Int64.toInt_minValue, Int64.toInt_maxValue, Bool.and_eq_true,
      decide_eq_true_eq] at hbounds
    have hsmall : digitsValue whole < UInt64.size := by
      have : UInt64.size = 18446744073709551616 := rfl
      omega
    simp [integer?, signed, hsmall]

/-- An integer is what the digits denote. -/
theorem eq_signed_of_integer? (h : numeral.integer? = some value) : value = numeral.signed := by
  unfold integer? at h
  split at h
  · nomatch h
  · dsimp only at h
    split at h <;> rename_i hnegative <;> split at h <;> cases h <;> simp [signed, hnegative]

theorem value_eq_integer_iff :
    numeral.value = .ok (.integer value) ↔ numeral.integer? = some value := by
  unfold Numeral.value
  split
  case h_1 found hfound => simp [hfound]
  case h_2 hnone =>
    rw [hnone]
    cases numeral.magnitude <;> exact ⟨nofun, nofun⟩

theorem signed_ofInt (value : Int) : (ofInt value).signed = value := by
  simp only [signed, ofInt, digitsValue_toDigits, decide_eq_true_eq]
  split <;> omega

theorem isPlain_ofInt (value : Int) : (ofInt value).IsPlain where
  fraction := rfl
  exponent := rfl
  zero := by
    rw [signed_ofInt, ofInt, decide_eq_true_eq]
    omega

theorem value_ofInt {value : Int} (h : fitsInt64 value = true) :
    (ofInt value).value = .ok (.integer value) := by
  have hinteger := integer?_of_isPlain (isPlain_ofInt value) ((signed_ofInt value).symm ▸ h)
  rw [signed_ofInt] at hinteger
  exact value_eq_integer_iff.mpr hinteger

end Numeral

end ClusterCapacity.Json
