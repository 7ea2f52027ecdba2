import ClusterCapacity.Json.Reader
import ClusterCapacity.Text.Lossy

/-!
# Reading JSON from bytes

Bytes are read as JSON without a look at whether all of them are text: they have to be where a
string is read, and may be anything in strings that are skipped.
-/

namespace ClusterCapacity.Json

/-- What is put in place of bytes that are no character.  It ends in the escape of half a character,
which no string that is read may hold, while a string that is skipped may.  The letter in front of
it keeps a backslash before the bytes from taking in that of the escape, and nothing that is written
outside strings goes on with it. -/
def noCharacter : List Char := "x\\uDC00".toList

/-- The characters of JSON in bytes. -/
def ofBytes (bytes : List UInt8) : List Char := Text.charactersFrom noCharacter 0 bytes

/-- Reads a whole text from its bytes. -/
def decodeBytes? {α : Type} (read : Reader α) (bytes : List UInt8) : Option α :=
  (decode read (String.ofList (ofBytes bytes))).toOption

end ClusterCapacity.Json
