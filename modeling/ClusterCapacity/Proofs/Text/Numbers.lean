import ClusterCapacity.ByteSize
import ClusterCapacity.Proofs.Json.Reader

/-!
# The characters of numbers

The text of an integer has digits and a sign only, and the text of a byte count has a point and the
letters of its unit besides (`isSizeCharacter_of_mem_format`).  So neither holds a space, a line
break, a bracket or a percent sign, whatever the number is.
-/

namespace ClusterCapacity

/-! ### Integers -/

/-- Whether a character stands in the text of some integer. -/
def isIntegerCharacter (c : Char) : Bool := c.isDigit || c = '-'

theorem isIntegerCharacter_of_mem_toString {value : Int} {c : Char}
    (h : c ∈ (toString value).toList) : isIntegerCharacter c = true := by
  have hdigits := Json.Numeral.decimal_eq value
  rw [Json.decimal] at hdigits
  rw [hdigits] at h
  rw [isIntegerCharacter, Bool.or_eq_true, decide_eq_true_eq]
  split at h
  · rcases List.mem_cons.mp h with rfl | hdigit
    · exact .inr rfl
    · exact .inl (Json.Numeral.isDigit_toDigits hdigit)
  · exact .inl (Json.Numeral.isDigit_toDigits h)

theorem not_mem_toString {c : Char} (h : isIntegerCharacter c = false) (value : Int) :
    c ∉ (toString value).toList := by
  intro hmem
  rw [isIntegerCharacter_of_mem_toString hmem] at h
  exact Bool.noConfusion h

/-- A 64-bit number is told from its text, because it is read from it. -/
theorem toString_int64_injective :
    Function.Injective (fun value : Int64 => toString value.toInt) := by
  intro value other h
  have hdecode (value : Int64) :
      Json.decode Json.Reader.int64 (toString value.toInt) = .ok value := by
    have hcompact : (Json.int value.toInt).compact = toString value.toInt := String.ofList_toList
    rw [← hcompact]
    exact Json.decode_compact (Json.Reader.reads_int64 value)
  have hsame := congrArg (Json.decode Json.Reader.int64) h
  dsimp only at hsame
  rw [hdecode, hdecode] at hsame
  exact Except.ok.inj hsame

/-! ### Byte counts -/

namespace ByteSize

/-- Whether a character stands in the text of some byte count. -/
def isSizeCharacter (c : Char) : Bool :=
  isIntegerCharacter c || c = '.' || "BKMGTP".toList.contains c

theorem isSizeCharacter_of_isInteger {c : Char} (h : isIntegerCharacter c = true) :
    isSizeCharacter c = true := by
  rw [isSizeCharacter, h]
  rfl

theorem isSizeCharacter_of_mem_toString {value : Nat} {c : Char}
    (h : c ∈ (toString value).toList) : isSizeCharacter c = true := by
  have hinteger : (toString value).toList = (toString (value : Int)).toList := rfl
  rw [hinteger] at h
  exact isSizeCharacter_of_isInteger (isIntegerCharacter_of_mem_toString h)

theorem isSizeCharacter_of_mem_symbol {unit : SizeUnit} {c : Char}
    (h : c ∈ unit.symbol.toList) : isSizeCharacter c = true := by
  cases unit <;>
  · obtain rfl | rfl := by simpa [SizeUnit.symbol] using h
    · rfl
    · rfl

theorem isSizeCharacter_of_mem_format {bytes : Int64} {c : Char}
    (h : c ∈ (format bytes).toList) : isSizeCharacter c = true := by
  rw [format] at h
  split at h
  · rw [String.toList_append, List.mem_append] at h
    rcases h with hdigit | hunit
    · exact isSizeCharacter_of_isInteger (isIntegerCharacter_of_mem_toString hdigit)
    · obtain rfl : c = 'B' := by simpa using hunit
      rfl
  · simp only [scaledText, Decimal.paddedDigits, String.toList_append, List.mem_append] at h
    rcases h with ((hwhole | hpoint) | hzero | hdigit) | hunit
    · exact isSizeCharacter_of_mem_toString hwhole
    · obtain rfl : c = '.' := by simpa using hpoint
      rfl
    · rw [String.toList_ofList] at hzero
      obtain rfl := List.eq_of_mem_replicate hzero
      rfl
    · exact isSizeCharacter_of_mem_toString hdigit
    · exact isSizeCharacter_of_mem_symbol hunit

theorem not_mem_format {c : Char} (h : isSizeCharacter c = false) (bytes : Int64) :
    c ∉ (format bytes).toList := by
  intro hmem
  rw [isSizeCharacter_of_mem_format hmem] at h
  exact Bool.noConfusion h

end ByteSize

end ClusterCapacity
