import ClusterCapacity.Url.Percent
import Mathlib.Data.List.Basic

/-!
# Percent encoding of bytes

A byte that has been encoded is decoded again, whatever follows it (`percentDecode_percentByte`).
Encoding a text brings in percent signs, digits and letters only, so a sign that separates the parts
of a URL is in an encoded part only where it was left as it is (`not_mem_percentEncode`).
-/

namespace ClusterCapacity.Url

theorem hexValue?_hexDigit : ∀ value < 16, hexValue? (hexDigit value) = some value := by
  decide

theorem isAlphanum_hexDigit : ∀ value < 16, (hexDigit value).isAlphanum = true := by
  decide

/-- An encoded byte is decoded. -/
theorem percentDecode_percentByte (byte : UInt8) (rest : List Char) :
    percentDecode (percentByte byte ++ rest) = byte :: percentDecode rest := by
  have hbyte : byte.toNat < 256 := byte.toNat_lt
  have hhigh : hexValue? (hexDigit (byte.toNat / 16)) = some (byte.toNat / 16) :=
    hexValue?_hexDigit _ (by omega)
  have hlow : hexValue? (hexDigit (byte.toNat % 16)) = some (byte.toNat % 16) :=
    hexValue?_hexDigit _ (by omega)
  have hsum : 16 * (byte.toNat / 16) + byte.toNat % 16 = byte.toNat := Nat.div_add_mod ..
  rw [percentByte, List.cons_append, List.cons_append, List.cons_append, List.nil_append,
    percentDecode, hhigh, hlow]
  dsimp only
  rw [hsum, UInt8.ofNat_toNat]

theorem percentDecode_flatMap_percentByte (bytes : List UInt8) (rest : List Char) :
    percentDecode (bytes.flatMap percentByte ++ rest) = bytes ++ percentDecode rest := by
  induction bytes with
  | nil => rfl
  | cons byte bytes ih =>
    rw [List.flatMap_cons, List.append_assoc, percentDecode_percentByte, ih, List.cons_append]

/-- A character other than the percent sign stands for its own bytes. -/
theorem percentDecode_cons {c : Char} (h : c ≠ '%') (rest : List Char) :
    percentDecode (c :: rest) = String.utf8EncodeChar c ++ percentDecode rest := by
  rw [percentDecode]
  rintro a b others rfl -
  exact h rfl

/-- An encoded byte is made of a percent sign, digits and letters. -/
theorem eq_percent_or_isAlphanum {byte : UInt8} {c : Char} (h : c ∈ percentByte byte) :
    c = '%' ∨ c.isAlphanum = true := by
  have hbyte : byte.toNat < 256 := byte.toNat_lt
  simp only [percentByte, List.mem_cons, List.not_mem_nil, or_false] at h
  rcases h with rfl | rfl | rfl
  · exact .inl rfl
  · exact .inr (isAlphanum_hexDigit _ (by omega))
  · exact .inr (isAlphanum_hexDigit _ (by omega))

/-- A separator that is not in a text is not in the encoded text either. -/
theorem not_mem_percentEncode {separator : Char} (hpercent : separator ≠ '%')
    (halphanum : separator.isAlphanum = false) {text : List Char} (h : separator ∉ text)
    (isUnsafe : Char → Bool) : separator ∉ percentEncode isUnsafe text := by
  intro hmem
  obtain ⟨c, hc, hwritten⟩ := List.mem_flatMap.mp hmem
  split at hwritten
  case isTrue =>
    obtain ⟨byte, -, hbyte⟩ := List.mem_flatMap.mp hwritten
    rcases eq_percent_or_isAlphanum hbyte with heq | htrue
    · exact hpercent heq
    · rw [halphanum] at htrue
      nomatch htrue
  case isFalse =>
    rw [List.mem_singleton.mp hwritten] at h
    exact h hc

end ClusterCapacity.Url
