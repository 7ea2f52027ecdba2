import ClusterCapacity.Unicode.Extending
import ClusterCapacity.Unicode.Unprintable

/-!
# Quoted texts in messages

A text is shown in double quotes.  The quote, the backslash and four control characters have named
escapes; every other character that is unprintable or would join the one before it is shown by its
code point.
-/

namespace ClusterCapacity.Text

/-- The code point of a character between braces, in lower case hexadecimal. -/
def codePointEscape (c : Char) : List Char :=
  '\\' :: 'u' :: '{' :: (Nat.toDigits 16 c.toNat ++ ['}'])

/-- One character between the quotes. -/
def quotedChar (c : Char) : List Char :=
  if c = '"' then ['\\', '"']
  else if c = '\\' then ['\\', '\\']
  else if c = '\t' then ['\\', 't']
  else if c = '\n' then ['\\', 'n']
  else if c = '\r' then ['\\', 'r']
  else if c = '\x00' then ['\\', '0']
  else if 0x20 ≤ c.toNat && c.toNat < 0x7F then [c]
  else if Unicode.extending.contains c || Unicode.unprintable.contains c then codePointEscape c
  else [c]

/-- The text in quotes. -/
def quoted (text : String) : String :=
  String.ofList ('"' :: (text.toList.flatMap quotedChar ++ ['"']))

end ClusterCapacity.Text
