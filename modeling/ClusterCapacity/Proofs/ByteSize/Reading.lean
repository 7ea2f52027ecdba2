import ClusterCapacity.ByteSize
import ClusterCapacity.Decimal.Numeral
import ClusterCapacity.Proofs.Json.Numeral
import Mathlib

/-!
# Reading sizes

What a size denotes can be read from its text: a number, exactly as it is written, times the bytes
of its unit (`ByteSize.quantity?`).  A text of hundredths has two places and reads as that many
hundredths of the unit (`ByteSize.IsHundredths.quantity?_eq`), and plain bytes read as their number
(`ByteSize.quantity?_plain`).
-/

namespace ClusterCapacity

open Json.Numeral (isDigit_toDigits head?_toDigits_ne_zero decimal_eq)

/-! ### Digits filled with zeros -/

namespace Decimal

theorem toList_paddedDigits (width n : ℕ) :
    (paddedDigits width n).toList
      = List.replicate (width - (Nat.toDigits 10 n).length) '0' ++ Nat.toDigits 10 n := by
  have hdigits : (toString n).toList = Nat.toDigits 10 n := Nat.toList_repr
  rw [paddedDigits, String.toList_append, String.toList_ofList, hdigits, ← String.length_toList,
    hdigits]

theorem isDigit_of_mem_paddedDigits {width n : ℕ} {c : Char}
    (h : c ∈ (paddedDigits width n).toList) : c.isDigit = true := by
  rw [toList_paddedDigits, List.mem_append] at h
  rcases h with hzero | hdigit
  · rw [List.eq_of_mem_replicate hzero]
    rfl
  · exact isDigit_toDigits hdigit

theorem length_paddedDigits (width : ℕ) {n : ℕ} (hwidth : 0 < width) (h : n < 10 ^ width) :
    (paddedDigits width n).toList.length = width := by
  have hle : (Nat.toDigits 10 n).length ≤ width :=
    (Nat.length_toDigits_le_iff (by decide) hwidth).mpr h
  rw [toList_paddedDigits, List.length_append, List.length_replicate]
  omega

/-- Digits and then two more denote a hundred times the first number and the second. -/
theorem digitsValue_append_paddedDigits (whole : ℕ) {places : ℕ} (h : places < 100) :
    digitsValue (Nat.toDigits 10 whole ++ (paddedDigits 2 places).toList)
      = 100 * whole + places := by
  have hlength := length_paddedDigits 2 (by decide) h
  have hvalue : Nat.ofDigitChars 10 (paddedDigits 2 places).toList 0 = places := by
    rw [toList_paddedDigits, Nat.ofDigitChars_append, Nat.ofDigitChars_replicate_zero, Nat.mul_zero,
      Nat.ofDigitChars_ten_toDigits]
  have happend : digitsValue (Nat.toDigits 10 whole ++ (paddedDigits 2 places).toList)
      = Nat.ofDigitChars 10 (Nat.toDigits 10 whole ++ (paddedDigits 2 places).toList) 0 := rfl
  rw [happend, Nat.ofDigitChars_append, Nat.ofDigitChars_ten_toDigits,
    Nat.ofDigitChars_eq_ofDigitChars_zero, hvalue, hlength]

/-- The exact value of a numeral. -/
def Numeral.exact (numeral : Numeral) : ℚ :=
  digitsValue (numeral.whole ++ numeral.fraction)
    * 10 ^ (numeral.exponent - numeral.fraction.length)

/-- The exact number that a text denotes, which may have a minus sign. -/
def rational? : List Char → Option ℚ
  | '-' :: text => (Numeral.ofText? text).map (fun numeral => -numeral.exact)
  | text => (Numeral.ofText? text).map Numeral.exact

theorem rational?_of_head?_ne {text : List Char} (h : text.head? ≠ some '-') :
    rational? text = (Numeral.ofText? text).map Numeral.exact := by
  unfold rational?
  split
  · exact absurd rfl h
  · rfl

variable {whole places : List Char}

theorem head?_ne_minus (h : ∀ c ∈ whole, c.isDigit = true) : whole.head? ≠ some '-' := by
  intro hhead
  exact absurd (h '-' (List.mem_of_mem_head? hhead)) (by decide)

/-- The first characters of a kind end where one of another kind follows. -/
theorem takeWhile_append_dropWhile_append {kind : Char → Bool} {front : List Char}
    (hfront : ∀ c ∈ front, kind c = true) (rest : List Char)
    (hrest : ∀ c ∈ rest.head?, kind c = false) :
    (front ++ rest).takeWhile kind = front ∧ (front ++ rest).dropWhile kind = rest := by
  rw [List.takeWhile_append_of_pos hfront, List.dropWhile_append_of_pos hfront]
  cases rest with
  | nil => exact ⟨List.append_nil _, rfl⟩
  | cons c rest => simp [hrest c rfl]

/-- Digits alone denote their value. -/
theorem ofText?_digits (hwhole : ∀ c ∈ whole, c.isDigit = true) (h : whole ≠ []) :
    Numeral.ofText? whole = some ⟨whole, [], 0⟩ := by
  obtain ⟨htake, hdrop⟩ := takeWhile_append_dropWhile_append hwhole [] nofun
  rw [List.append_nil] at htake hdrop
  simp [Numeral.ofText?, htake, hdrop, h, exponent?]

/-- Digits with a point among them. -/
theorem ofText?_places (hwhole : ∀ c ∈ whole, c.isDigit = true) (h : whole ≠ [])
    (hplaces : ∀ c ∈ places, c.isDigit = true) :
    Numeral.ofText? (whole ++ '.' :: places) = some ⟨whole, places, 0⟩ := by
  have hpoint : ∀ c ∈ ('.' :: places).head?, c.isDigit = false := by simp [Char.isDigit]
  obtain ⟨htake, hdrop⟩ := takeWhile_append_dropWhile_append hwhole _ hpoint
  obtain ⟨hfraction, hrest⟩ := takeWhile_append_dropWhile_append hplaces [] nofun
  rw [List.append_nil] at hfraction hrest
  simp [Numeral.ofText?, htake, hdrop, hfraction, hrest, h, exponent?]

theorem rational?_digits (hwhole : ∀ c ∈ whole, c.isDigit = true) (h : whole ≠ []) :
    rational? whole = some (digitsValue whole : ℚ) := by
  rw [rational?_of_head?_ne (head?_ne_minus hwhole), ofText?_digits hwhole h, Option.map_some,
    Numeral.exact]
  simp

theorem rational?_places (hwhole : ∀ c ∈ whole, c.isDigit = true) (h : whole ≠ [])
    (hplaces : ∀ c ∈ places, c.isDigit = true) :
    rational? (whole ++ '.' :: places)
      = some ((digitsValue (whole ++ places) : ℚ) / 10 ^ places.length) := by
  have hhead : (whole ++ '.' :: places).head? ≠ some '-' := by
    rw [List.head?_append_of_ne_nil _ h]
    exact head?_ne_minus hwhole
  rw [rational?_of_head?_ne hhead, ofText?_places hwhole h hplaces, Option.map_some, Numeral.exact,
    zero_sub, zpow_neg, zpow_natCast, div_eq_mul_inv]

/-- The text of an integer denotes the integer. -/
theorem rational?_toString (value : ℤ) : rational? (toString value).toList = some (value : ℚ) := by
  have hdigits : ∀ c ∈ Nat.toDigits 10 value.natAbs, c.isDigit = true :=
    fun c hc => isDigit_toDigits hc
  have hrational := rational?_digits hdigits Nat.toDigits_ne_nil
  have hvalue : digitsValue (Nat.toDigits 10 value.natAbs) = value.natAbs :=
    Nat.ofDigitChars_ten_toDigits
  have htext : (toString value).toList = _ := decimal_eq value
  rw [htext]
  split
  · rename_i hnegative
    have hminus : rational? ('-' :: Nat.toDigits 10 value.natAbs)
        = (rational? (Nat.toDigits 10 value.natAbs)).map (fun value => -value) := by
      rw [rational?_of_head?_ne (head?_ne_minus hdigits), Option.map_map]
      rfl
    rw [hminus, hrational, hvalue, Option.map_some, Nat.cast_natAbs, abs_of_neg hnegative]
    push_cast
    rw [neg_neg]
  · rename_i hnonneg
    rw [hrational, hvalue, Nat.cast_natAbs, abs_of_nonneg (not_lt.mp hnonneg)]

end Decimal

/-! ### Quantities -/

namespace SizeUnit

/-- The bytes of a unit symbol. -/
def bytesOfSymbol? (symbol : List Char) : Option ℕ :=
  if symbol = ['B'] then some 1
  else ([kilo, mega, giga, tera, peta].find? (fun unit => unit.symbol.toList = symbol)).map bytes

theorem bytesOfSymbol?_symbol (unit : SizeUnit) :
    bytesOfSymbol? unit.symbol.toList = some unit.bytes := by
  cases unit <;> rfl

end SizeUnit

namespace ByteSize

/-- Whether a character belongs to the number of a size and not to its unit. -/
def isNumberPart (c : Char) : Bool := !c.isUpper

/-- What a size denotes: its number times the bytes of its unit. -/
def quantity? (text : String) : Option ℚ :=
  (Decimal.rational? (text.toList.takeWhile isNumberPart)).bind fun number =>
    (SizeUnit.bytesOfSymbol? (text.toList.dropWhile isNumberPart)).map
      fun bytes : ℕ => number * bytes

/-- Whether a text is a decimal of `h` hundredths with two places and no needless zero, followed by
a unit. -/
def IsHundredths (text : String) (unit : SizeUnit) (h : ℕ) : Prop :=
  ∃ whole places : List Char, text.toList = whole ++ '.' :: (places ++ unit.symbol.toList) ∧
    whole ≠ [] ∧ (∀ c ∈ whole, c.isDigit = true) ∧ (whole.head? = some '0' → whole = ['0']) ∧
    places.length = 2 ∧ (∀ c ∈ places, c.isDigit = true) ∧
    Decimal.digitsValue (whole ++ places) = h

theorem isHundredths_scaledText (unit : SizeUnit) (h : ℕ) :
    IsHundredths (scaledText unit h) unit h := by
  have hplaces : h % 100 < 100 := Nat.mod_lt h (by decide)
  have hwhole : (toString (h / 100)).toList = Nat.toDigits 10 (h / 100) := Nat.toList_repr
  have hzero : (Nat.toDigits 10 (h / 100)).head? = some '0' →
      Nat.toDigits 10 (h / 100) = ['0'] := by
    intro hhead
    rcases Nat.eq_zero_or_pos (h / 100) with heq | hpos
    · rw [heq, Nat.toDigits_zero]
    · exact absurd hhead (head?_toDigits_ne_zero hpos)
  refine ⟨Nat.toDigits 10 (h / 100), (Decimal.paddedDigits 2 (h % 100)).toList, ?_,
    Nat.toDigits_ne_nil, fun c hc => isDigit_toDigits hc, hzero,
    Decimal.length_paddedDigits 2 (by decide) hplaces,
    fun c hc => Decimal.isDigit_of_mem_paddedDigits hc, ?_⟩
  · have hpoint : ".".toList = ['.'] := rfl
    simp only [scaledText, String.toList_append, hwhole, hpoint, List.append_assoc,
      List.cons_append, List.nil_append]
  · rw [Decimal.digitsValue_append_paddedDigits _ hplaces]
    omega

theorem isNumberPart_of_isDigit {c : Char} (h : c.isDigit = true) : isNumberPart c = true := by
  simp only [isNumberPart, Char.isDigit, Char.isUpper, Bool.and_eq_true, decide_eq_true_eq,
    Bool.not_eq_true', decide_eq_false_iff_not, ge_iff_le] at h ⊢
  grind

/-- The number and the unit of a size are told apart. -/
theorem quantity?_append {number symbol : List Char} {text : String}
    (htext : text.toList = number ++ symbol) (hnumber : ∀ c ∈ number, isNumberPart c = true)
    (hsymbol : ∀ c ∈ symbol.head?, isNumberPart c = false) :
    quantity? text = (Decimal.rational? number).bind fun value =>
      (SizeUnit.bytesOfSymbol? symbol).map fun bytes : ℕ => value * bytes := by
  obtain ⟨htake, hdrop⟩ := Decimal.takeWhile_append_dropWhile_append hnumber _ hsymbol
  rw [quantity?, htext, htake, hdrop]

/-- Plain bytes denote their number. -/
theorem quantity?_plain (value : ℤ) : quantity? (toString value ++ "B") = some (value : ℚ) := by
  have hnumber : ∀ c ∈ (toString value).toList, isNumberPart c = true := by
    have htext : (toString value).toList = _ := decimal_eq value
    intro c hc
    rw [htext] at hc
    split at hc
    · rcases List.mem_cons.mp hc with rfl | hdigit
      · rfl
      · exact isNumberPart_of_isDigit (isDigit_toDigits hdigit)
    · exact isNumberPart_of_isDigit (isDigit_toDigits hc)
  have hunit : ∀ c ∈ "B".toList.head?, isNumberPart c = false := by
    rintro c ⟨⟩
    rfl
  have hbytes : SizeUnit.bytesOfSymbol? "B".toList = some 1 := rfl
  rw [quantity?_append (String.toList_append ..) hnumber hunit,
    Decimal.rational?_toString, Option.bind_some, hbytes, Option.map_some, Nat.cast_one, mul_one]

/-- Hundredths of a unit denote so many hundredths of its bytes. -/
theorem IsHundredths.quantity?_eq {text : String} {unit : SizeUnit} {h : ℕ}
    (htext : IsHundredths text unit h) : quantity? text = some ((h : ℚ) / 100 * unit.bytes) := by
  obtain ⟨whole, places, htext, hne, hwhole, -, hlength, hplaces, rfl⟩ := htext
  have hnumber : ∀ c ∈ whole ++ '.' :: places, isNumberPart c = true := by
    simp only [List.mem_append, List.mem_cons]
    rintro c (hc | rfl | hc)
    · exact isNumberPart_of_isDigit (hwhole c hc)
    · rfl
    · exact isNumberPart_of_isDigit (hplaces c hc)
  have hsymbol : ∀ c ∈ unit.symbol.toList.head?, isNumberPart c = false := by
    cases unit <;>
    · rintro c ⟨⟩
      rfl
  have hsplit : text.toList = (whole ++ '.' :: places) ++ unit.symbol.toList := by
    rw [htext, List.append_assoc, List.cons_append]
  rw [quantity?_append hsplit hnumber hsymbol, Decimal.rational?_places hwhole hne hplaces,
    Option.bind_some, SizeUnit.bytesOfSymbol?_symbol, Option.map_some, hlength]
  norm_num

end ByteSize

end ClusterCapacity
