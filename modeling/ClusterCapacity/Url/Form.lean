import ClusterCapacity.Url.Percent

/-!
# Form encoding

A query made of pairs: `name=value`, joined by ampersands.  Letters, digits and four signs stand for
themselves, a plus sign for a space, and every other byte is percent encoded.
-/

namespace ClusterCapacity.Url.Form

/-- Whether a character stands for itself. -/
def isPlain (c : Char) : Bool := c.isAlphanum || c = '*' || c = '-' || c = '.' || c = '_'

/-- One character of a name or value. -/
def encodeChar (c : Char) : List Char :=
  if isPlain c then [c] else if c = ' ' then ['+'] else percentChar c

/-- A name or value. -/
def encodeText (text : List Char) : List Char := text.flatMap encodeChar

/-- A pair of name and value. -/
def encodePair (pair : List Char × List Char) : List Char :=
  encodeText pair.1 ++ '=' :: encodeText pair.2

/-- A query of pairs. -/
def encode (pairs : List (List Char × List Char)) : List Char :=
  ['&'].intercalate (pairs.map encodePair)

/-! ### Decoding -/

/-- The text of a name or value; bytes that are no text make it unreadable. -/
def decodeText? (text : List Char) : Option (List Char) :=
  let bytes := percentDecode (text.map (fun c => if c = '+' then ' ' else c))
  (String.fromUTF8? bytes.toByteArray).map String.toList

/-- The pair of a text with an equals sign, or of a name alone. -/
def decodePair? (text : List Char) : Option (List Char × List Char) := do
  let name ← decodeText? (text.takeWhile (· ≠ '='))
  let value ← decodeText? ((text.dropWhile (· ≠ '=')).drop 1)
  return (name, value)

/-- The pairs of a query. -/
def decode? (query : List Char) : Option (List (List Char × List Char)) :=
  ((query.splitOn '&').filter (fun text => !text.isEmpty)).mapM decodePair?

end ClusterCapacity.Url.Form
