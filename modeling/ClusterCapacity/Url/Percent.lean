/-!
# Percent encoding

A byte is written as a percent sign and two hexadecimal digits.  Every character beyond ASCII is
encoded, and of ASCII what is unsafe in the place at hand.
-/

namespace ClusterCapacity.Url

/-- An upper case hexadecimal digit. -/
def hexDigit (value : Nat) : Char :=
  if value < 10 then Char.ofNat ('0'.toNat + value) else Char.ofNat ('A'.toNat + value - 10)

/-- The value of a hexadecimal digit of either case. -/
def hexValue? (c : Char) : Option Nat :=
  if '0' ≤ c ∧ c ≤ '9' then some (c.toNat - '0'.toNat)
  else if 'a' ≤ c ∧ c ≤ 'f' then some (c.toNat - 'a'.toNat + 10)
  else if 'A' ≤ c ∧ c ≤ 'F' then some (c.toNat - 'A'.toNat + 10)
  else none

/-- A byte as a percent sign and two digits. -/
def percentByte (byte : UInt8) : List Char :=
  ['%', hexDigit (byte.toNat / 16), hexDigit (byte.toNat % 16)]

/-- The bytes of a character in UTF-8, percent encoded. -/
def percentChar (c : Char) : List Char := (String.utf8EncodeChar c).flatMap percentByte

/-! ### Unsafe characters -/

/-- Control characters, which are unsafe everywhere. -/
def isControl (c : Char) : Bool := c.toNat < 0x20 || c.toNat = 0x7F

/-- Whether a character is one of those in a text. -/
def isAmong (characters : String) (c : Char) : Bool := characters.toList.contains c

/-- The characters that are unsafe in a fragment. -/
def unsafeInFragment (c : Char) : Bool := isControl c || isAmong " \"<>`" c

/-- The characters that are unsafe in a path. -/
def unsafeInPath (c : Char) : Bool := unsafeInFragment c || isAmong "#?\x7b\x7d" c

/-- The characters that are unsafe in the name and password of a user. -/
def unsafeInUserinfo (c : Char) : Bool := unsafeInPath c || isAmong "/:;=@[\\]^|" c

/-- The characters that are unsafe in a query; one more is in the query of a web address. -/
def unsafeInQuery (special : Bool) (c : Char) : Bool :=
  isControl c || isAmong " \"#<>" c || (special && c = '\'')

/-- Encodes the unsafe characters of a text. -/
def percentEncode (isUnsafe : Char → Bool) (text : List Char) : List Char :=
  text.flatMap (fun c => if 0x80 ≤ c.toNat || isUnsafe c then percentChar c else [c])

/-! ### Decoding -/

/-- The bytes of a text, with encoded bytes decoded. -/
def percentDecode : List Char → List UInt8
  | [] => []
  | '%' :: a :: b :: rest =>
    match hexValue? a, hexValue? b with
    | some high, some low => UInt8.ofNat (16 * high + low) :: percentDecode rest
    | _, _ => '%'.toUInt8 :: percentDecode (a :: b :: rest)
  | c :: rest => String.utf8EncodeChar c ++ percentDecode rest

end ClusterCapacity.Url
