/-!
# Texts from any bytes

Bytes that are no UTF-8 still become a text: each piece that cannot be a character, taken as long as
it could still be the beginning of one, is shown as something else, such as the replacement
character.
-/

namespace ClusterCapacity.Text

/-- Stands for bytes that are no character. -/
def replacement : Char := '\uFFFD'

/-- Whether a byte continues a character. -/
def isContinuation (byte : UInt8) : Bool := 0x80 ≤ byte && byte ≤ 0xBF

/-- The second bytes that may follow a first byte, and the number of bytes after the first. -/
def leadingByte? (byte : UInt8) : Option (UInt8 × UInt8 × Nat) :=
  if 0xC2 ≤ byte && byte ≤ 0xDF then some (0x80, 0xBF, 1)
  else if byte = 0xE0 then some (0xA0, 0xBF, 2)
  else if byte = 0xED then some (0x80, 0x9F, 2)
  else if 0xE1 ≤ byte && byte ≤ 0xEF then some (0x80, 0xBF, 2)
  else if byte = 0xF0 then some (0x90, 0xBF, 3)
  else if 0xF1 ≤ byte && byte ≤ 0xF3 then some (0x80, 0xBF, 3)
  else if byte = 0xF4 then some (0x80, 0x8F, 3)
  else none

/-- The bytes after the first one that can belong to its character. -/
def trailingBytes (low high : UInt8) (count : Nat) (bytes : List UInt8) : List UInt8 :=
  match bytes with
  | second :: rest =>
    if low ≤ second && second ≤ high then
      second :: (rest.take (count - 1)).takeWhile isContinuation
    else []
  | [] => []

/-- The bits of a continuation byte put after those of a character. -/
def appendBits (code : Nat) (byte : UInt8) : Nat := 64 * code + byte.toNat % 64

/-- The text of the bytes, with a substitute for what is no character; `skip` of the bytes belong to
the character before. -/
def charactersFrom (substitute : List Char) : Nat → List UInt8 → List Char
  | _, [] => []
  | skip + 1, _ :: rest => charactersFrom substitute skip rest
  | 0, byte :: rest =>
    if byte < 0x80 then Char.ofNat byte.toNat :: charactersFrom substitute 0 rest
    else
      match leadingByte? byte with
      | none => substitute ++ charactersFrom substitute 0 rest
      | some (low, high, count) =>
        let trailing := trailingBytes low high count rest
        let shown :=
          if trailing.length = count then
            [Char.ofNat (trailing.foldl appendBits (byte.toNat % Nat.pow 2 (6 - count)))]
          else substitute
        shown ++ charactersFrom substitute trailing.length rest

/-- The text of any bytes. -/
def lossy (bytes : List UInt8) : String := String.ofList (charactersFrom [replacement] 0 bytes)

end ClusterCapacity.Text
