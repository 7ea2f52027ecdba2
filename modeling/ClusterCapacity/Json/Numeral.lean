import ClusterCapacity.Decimal.Bounds
import ClusterCapacity.Decimal.Floating
import ClusterCapacity.Json.Fault

/-!
# Numbers in JSON texts

A numeral is split into its digits by `Numeral.scan`, which knows nothing of sizes.  Its value is an
integer when it shows neither point nor exponent and fits into 64 bits, with or without a sign;
otherwise it is a binary64 number, computed from the digits that fit into 64 bits and one scaling
by a power of ten.  Minus zero is a binary64 number too.
-/

namespace ClusterCapacity.Json

open Decimal

/-- The value of a decimal digit. -/
def digitValue (c : Char) : Nat := c.toNat - '0'.toNat

/-- The power of ten after the letter `e`. -/
structure Exponent where
  negative : Bool
  digits : List Char
deriving DecidableEq, Repr

/-- The digits of a number. -/
structure Numeral where
  negative : Bool
  whole : List Char
  fraction : Option (List Char) := none
  exponent : Option Exponent := none
deriving DecidableEq, Repr

/-- The value of a numeral. -/
inductive Number where
  | integer (value : Int)
  | floating (value : Floating)
deriving DecidableEq, Repr

namespace Numeral

/-! ### Scanning -/

/-- What went wrong where a digit was due. -/
def digitDue : List Char → Fault
  | [] => .endInValue
  | _ :: _ => .badNumber

/-- Takes the digits at the head of a text, of which there has to be one. -/
def scanDigits (text : List Char) : Except Fault (List Char × List Char) :=
  let digits := text.takeWhile Char.isDigit
  let rest := text.dropWhile Char.isDigit
  if digits.isEmpty then .error (digitDue rest) else .ok (digits, rest)

/-- Takes the digits before the point; a zero stands alone. -/
def scanWhole (text : List Char) : Except Fault (List Char × List Char) := do
  let (digits, rest) ← scanDigits text
  if digits.head? = some '0' && digits.length ≠ 1 then .error .badNumber else .ok (digits, rest)

/-- Takes the point and the digits after it, if there is a point. -/
def scanFraction (text : List Char) : Except Fault (Option (List Char) × List Char) :=
  match text with
  | '.' :: text => do
    let (digits, rest) ← scanDigits text
    .ok (some digits, rest)
  | text => .ok (none, text)

/-- Takes the sign of an exponent. -/
def scanSign : List Char → Bool × List Char
  | '-' :: text => (true, text)
  | '+' :: text => (false, text)
  | text => (false, text)

/-- Takes the exponent, if there is one. -/
def scanExponent (text : List Char) : Except Fault (Option Exponent × List Char) :=
  match text with
  | [] => .ok (none, [])
  | c :: text =>
    if c = 'e' || c = 'E' then do
      let (negative, text) := scanSign text
      let (digits, rest) ← scanDigits text
      .ok (some ⟨negative, digits⟩, rest)
    else .ok (none, c :: text)

/-- Takes the number at the head of a text, after its sign. -/
def scanUnsigned (negative : Bool) (text : List Char) : Except Fault (Numeral × List Char) := do
  let (whole, text) ← scanWhole text
  let (fraction, text) ← scanFraction text
  let (exponent, text) ← scanExponent text
  .ok (⟨negative, whole, fraction, exponent⟩, text)

/-- Takes the number at the head of a text. -/
def scan : List Char → Except Fault (Numeral × List Char)
  | '-' :: text => scanUnsigned true text
  | text => scanUnsigned false text

/-! ### A number is not empty -/

theorem length_scanDigits {text digits rest : List Char}
    (h : scanDigits text = .ok (digits, rest)) : rest.length < text.length := by
  simp only [scanDigits] at h
  split at h
  · simp at h
  · rename_i hne
    simp only [Except.ok.injEq, Prod.mk.injEq] at h
    obtain ⟨rfl, rfl⟩ := h
    have hlen := congrArg List.length
      (List.takeWhile_append_dropWhile (p := Char.isDigit) (l := text))
    rw [List.length_append] at hlen
    have : (text.takeWhile Char.isDigit).length ≠ 0 := by simpa using hne
    omega

theorem length_scanWhole {text digits rest : List Char}
    (h : scanWhole text = .ok (digits, rest)) : rest.length < text.length := by
  simp only [scanWhole, bind, Except.bind] at h
  split at h
  · simp at h
  · rename_i v hv
    split at h
    · simp at h
    · simp only [Except.ok.injEq, Prod.mk.injEq] at h
      obtain ⟨rfl, rfl⟩ := h
      exact length_scanDigits hv

theorem length_scanFraction {text rest : List Char} {fraction : Option (List Char)}
    (h : scanFraction text = .ok (fraction, rest)) : rest.length ≤ text.length := by
  unfold scanFraction at h
  split at h
  · simp only [bind, Except.bind] at h
    split at h
    · simp at h
    · rename_i v hv
      simp only [Except.ok.injEq, Prod.mk.injEq] at h
      obtain ⟨-, rfl⟩ := h
      have := length_scanDigits hv
      simp only [List.length_cons]
      omega
  · simp only [Except.ok.injEq, Prod.mk.injEq] at h
    obtain ⟨-, rfl⟩ := h
    exact Nat.le_refl _

theorem length_scanSign (text : List Char) : (scanSign text).2.length ≤ text.length := by
  unfold scanSign
  split <;> simp

theorem length_scanExponent {text rest : List Char} {exponent : Option Exponent}
    (h : scanExponent text = .ok (exponent, rest)) : rest.length ≤ text.length := by
  unfold scanExponent at h
  split at h
  · simp only [Except.ok.injEq, Prod.mk.injEq] at h
    simp [← h.2]
  · rename_i c text
    split at h
    · simp only [bind, Except.bind] at h
      split at h
      · simp at h
      · rename_i v hv
        simp only [Except.ok.injEq, Prod.mk.injEq] at h
        obtain ⟨-, rfl⟩ := h
        have := length_scanDigits hv
        have := length_scanSign text
        simp only [List.length_cons]
        omega
    · simp only [Except.ok.injEq, Prod.mk.injEq] at h
      simp [← h.2]

theorem length_scanUnsigned {negative : Bool} {text rest : List Char} {numeral : Numeral}
    (h : scanUnsigned negative text = .ok (numeral, rest)) :
    rest.length < text.length := by
  simp only [scanUnsigned, bind, Except.bind] at h
  split at h
  · simp at h
  · rename_i whole hwhole
    split at h
    · simp at h
    · rename_i fraction hfraction
      split at h
      · simp at h
      · rename_i exponent hexponent
        simp only [Except.ok.injEq, Prod.mk.injEq] at h
        obtain ⟨-, rfl⟩ := h
        have := length_scanWhole hwhole
        have := length_scanFraction hfraction
        have := length_scanExponent hexponent
        omega

theorem length_scan {text rest : List Char} {numeral : Numeral}
    (h : scan text = .ok (numeral, rest)) : rest.length < text.length := by
  unfold scan at h
  split at h
  · have := length_scanUnsigned h
    simp only [List.length_cons]
    omega
  · exact length_scanUnsigned h

/-! ### Values -/

/-- Appends digits to a significand as long as it stays below `2 ^ 64`; the digits from the first
one that does not fit are left over. -/
def absorb (significand : Nat) : List Char → Nat × List Char
  | [] => (significand, [])
  | d :: rest =>
    let next := 10 * significand + digitValue d
    if next < UInt64.size then absorb next rest else (significand, d :: rest)

/-- The number that a list of digits denotes. -/
def digitsValue (digits : List Char) : Nat :=
  digits.foldl (fun value d => 10 * value + digitValue d) 0

/-- The greatest exponent that is taken at its value. -/
def greatestExponent : Nat := 2147483647

/-- The magnitude of a significand times a power of ten. -/
def scaled (significand : Nat) (exponent : Int) : Except Fault Binary64 :=
  match (Binary64.ofNat significand).scale10 exponent with
  | some magnitude => .ok magnitude
  | none => .error .numberOutOfRange

/-- The magnitude of a number that is not a 64-bit integer. -/
def magnitude (numeral : Numeral) : Except Fault Binary64 :=
  let (significand, dropped) := absorb 0 numeral.whole
  let fraction := numeral.fraction.getD []
  let (significand, lost) := absorb significand fraction
  let places : Int := dropped.length - (fraction.length - lost.length : Nat)
  match numeral.exponent with
  | none => scaled significand places
  | some exponent =>
    let power := digitsValue exponent.digits
    if power ≤ greatestExponent then
      scaled significand (places + if exponent.negative then -(power : Int) else power)
    else if significand = 0 || exponent.negative then .ok .zero
    else .error .numberOutOfRange

/-- The numeral as a 64-bit integer, if it is one: neither a sign nor its absence may carry it out
of the range, and zero has no sign. -/
def integer? (numeral : Numeral) : Option Int :=
  if numeral.fraction.isSome || numeral.exponent.isSome then none
  else
    let value := digitsValue numeral.whole
    if numeral.negative then
      if value = 0 || !fitsInt64 (-(value : Int)) then none else some (-(value : Int))
    else if value < UInt64.size then some value
    else none

/-- The value of the numeral. -/
def value (numeral : Numeral) : Except Fault Number :=
  match numeral.integer? with
  | some value => .ok (.integer value)
  | none => do .ok (.floating ⟨numeral.negative, ← numeral.magnitude⟩)

end Numeral

end ClusterCapacity.Json
