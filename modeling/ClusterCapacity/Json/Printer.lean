import ClusterCapacity.Json.Basic

/-!
# Writing JSON

`compact` writes a value without any blank; `pretty` puts every item and member on a line of its
own, two spaces deeper than the bracket that holds it, except that empty brackets stay together.
Strings escape the quote, the backslash and the control characters below the space.
-/

namespace ClusterCapacity.Json

/-- A hexadecimal digit in lower case. -/
def hexDigit (value : Nat) : Char :=
  if value < 10 then Char.ofNat ('0'.toNat + value) else Char.ofNat ('a'.toNat + value - 10)

/-- One character between the quotes of a string. -/
def escapedChar (c : Char) : List Char :=
  if c = '"' then ['\\', '"']
  else if c = '\\' then ['\\', '\\']
  else if c = '\x08' then ['\\', 'b']
  else if c = '\t' then ['\\', 't']
  else if c = '\n' then ['\\', 'n']
  else if c = '\x0c' then ['\\', 'f']
  else if c = '\r' then ['\\', 'r']
  else if c.toNat < 0x20 then
    ['\\', 'u', '0', '0', hexDigit (c.toNat / 16), hexDigit (c.toNat % 16)]
  else [c]

/-- A text in quotes. -/
def quoted (text : String) : List Char :=
  '"' :: (text.toList.flatMap escapedChar ++ ['"'])

/-- An integer in decimal. -/
def decimal (value : Int) : List Char := (toString value).toList

/-- The text of a truth value. -/
def truth (value : Bool) : List Char := if value then "true".toList else "false".toList

mutual

/-- The text of a value without blanks. -/
def compactChars : Json → List Char
  | null => "null".toList
  | bool value => truth value
  | int value => decimal value
  | str text => quoted text
  | arr [] => "[]".toList
  | arr (item :: rest) => '[' :: (item.compactChars ++ compactItems rest)
  | obj [] => "\x7b\x7d".toList
  | obj ((name, value) :: rest) =>
    '{' :: (quoted name ++ ':' :: (value.compactChars ++ compactMembers rest))

/-- The items after the first one and the closing bracket. -/
def compactItems : List Json → List Char
  | [] => [']']
  | item :: rest => ',' :: (item.compactChars ++ compactItems rest)

/-- The members after the first one and the closing brace. -/
def compactMembers : List (String × Json) → List Char
  | [] => ['}']
  | (name, value) :: rest =>
    ',' :: (quoted name ++ ':' :: (value.compactChars ++ compactMembers rest))

end

/-- The text of a value without blanks. -/
def compact (value : Json) : String := String.ofList value.compactChars

/-- A line break and the indentation of `depth` levels. -/
def newline (depth : Nat) : List Char := '\n' :: List.replicate (2 * depth) ' '

mutual

/-- The text of a value over several lines, `depth` levels deep. -/
def prettyChars (depth : Nat) : Json → List Char
  | null => "null".toList
  | bool value => truth value
  | int value => decimal value
  | str text => quoted text
  | arr [] => "[]".toList
  | arr (item :: rest) =>
    '[' :: (newline (depth + 1) ++ item.prettyChars (depth + 1) ++ prettyItems depth rest)
  | obj [] => "\x7b\x7d".toList
  | obj ((name, value) :: rest) =>
    '{' :: (newline (depth + 1) ++ quoted name ++ ':' :: ' ' ::
      (value.prettyChars (depth + 1) ++ prettyMembers depth rest))

/-- The items after the first one and the closing bracket. -/
def prettyItems (depth : Nat) : List Json → List Char
  | [] => newline depth ++ [']']
  | item :: rest =>
    ',' :: (newline (depth + 1) ++ item.prettyChars (depth + 1) ++ prettyItems depth rest)

/-- The members after the first one and the closing brace. -/
def prettyMembers (depth : Nat) : List (String × Json) → List Char
  | [] => newline depth ++ ['}']
  | (name, value) :: rest =>
    ',' :: (newline (depth + 1) ++ quoted name ++ ':' :: ' ' ::
      (value.prettyChars (depth + 1) ++ prettyMembers depth rest))

end

/-- The text of a value over several lines. -/
def pretty (value : Json) : String := String.ofList (value.prettyChars 0)

end ClusterCapacity.Json
