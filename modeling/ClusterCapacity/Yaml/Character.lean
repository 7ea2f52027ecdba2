import ClusterCapacity.Yaml.Fault

/-!
# Characters and places of a YAML text

Before anything else a text is checked for characters that YAML forbids and its line breaks are
made uniform: a carriage return, with or without a line feed, and the next-line character become
line feeds.  Only the line and paragraph separators remain as breaks of their own.
-/

namespace ClusterCapacity.Yaml

/-! ### Classes -/

/-- Whether YAML allows the character in a text. -/
def isAllowed (c : Char) : Bool :=
  c = '\t' || c = '\n' || c = '\r' || (0x20 ≤ c.toNat && c.toNat ≤ 0x7E) || c.toNat = 0x85
    || (0xA0 ≤ c.toNat && c.toNat ≤ 0xFFFD && c.toNat ≠ 0xFEFF) || 0x10000 ≤ c.toNat

/-- White space within a line. -/
def isBlank (c : Char) : Bool := c = ' ' || c = '\t'

/-- A line break; the text has uniform breaks. -/
def isBreak (c : Char) : Bool := c = '\n' || c.toNat = 0x2028 || c.toNat = 0x2029

/-- White space of either kind. -/
def isSpace (c : Char) : Bool := isBlank c || isBreak c

/-- A character of anchors, handles and directive names. -/
def isWordChar (c : Char) : Bool := c.isAlphanum || c = '_' || c = '-'

/-- Whether a text begins with white space or is at its end. -/
def atSpace : List Char → Bool
  | [] => true
  | c :: _ => isSpace c

/-- Whether a text begins with the mark between documents. -/
def atDocumentMark : List Char → Bool
  | '-' :: '-' :: '-' :: rest => atSpace rest
  | '.' :: '.' :: '.' :: rest => atSpace rest
  | _ => false

/-! ### Uniform texts -/

/-- Makes the line breaks uniform. -/
def unifyBreaks : List Char → List Char
  | [] => []
  | '\r' :: '\n' :: rest => '\n' :: unifyBreaks rest
  | c :: rest => (if c = '\r' || c.toNat = 0x85 then '\n' else c) :: unifyBreaks rest

/-- The text without a byte order mark in front. -/
def dropOrderMark : List Char → List Char
  | [] => []
  | c :: rest => if c.toNat = 0xFEFF then rest else c :: rest

/-- The characters of a text that is ready to be scanned. -/
def prepare (text : String) : Except Fault (List Char) :=
  let characters := dropOrderMark text.toList
  if characters.all isAllowed then .ok (unifyBreaks characters) else .error .forbiddenCharacter

/-! ### Places -/

/-- A place in a text. -/
structure Mark where
  index : Nat := 0
  line : Nat := 0
  column : Nat := 0
deriving DecidableEq, Repr, Inhabited

namespace Mark

/-- The place `count` characters further on the line. -/
def advance (mark : Mark) (count : Nat) : Mark :=
  { mark with index := mark.index + count, column := mark.column + count }

/-- The place after one more character of the line. -/
def next (mark : Mark) : Mark := mark.advance 1

/-- The place after a line break. -/
def newLine (mark : Mark) : Mark := ⟨mark.index + 1, mark.line + 1, 0⟩

end Mark

/-- What is left of a text, and where it begins. -/
structure Cursor where
  mark : Mark
  rest : List Char
deriving DecidableEq, Repr, Inhabited

namespace Cursor

/-- Goes on by `count` characters of the line. -/
def advance (cursor : Cursor) (count : Nat) : Cursor :=
  ⟨cursor.mark.advance count, cursor.rest.drop count⟩

/-- Goes past the characters at the head that satisfy `p`, none of which is a line break. -/
def skipWhile (cursor : Cursor) (p : Char → Bool) : Cursor :=
  cursor.advance (cursor.rest.takeWhile p).length

/-- Goes to the end of the line. -/
def skipLine (cursor : Cursor) : Cursor := cursor.skipWhile (fun c => !isBreak c)

/-- Takes the characters at the head that satisfy `p`, none of which is a line break. -/
def takeWhile (cursor : Cursor) (p : Char → Bool) : List Char × Cursor :=
  (cursor.rest.takeWhile p, cursor.skipWhile p)

/-- Goes past a comment and the end of the line; nothing else may be left on it. -/
def endLine (cursor : Cursor) (fault : Fault) : Except Fault Cursor :=
  let cursor := cursor.skipWhile isBlank
  let cursor := if cursor.rest.head? = some '#' then cursor.skipLine else cursor
  match cursor.rest with
  | [] => .ok cursor
  | c :: rest => if isBreak c then .ok ⟨cursor.mark.newLine, rest⟩ else .error fault

end Cursor

end ClusterCapacity.Yaml
