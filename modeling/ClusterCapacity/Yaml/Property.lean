import ClusterCapacity.Yaml.Scalar

/-!
# Anchors, tags and directives in YAML texts

The parts of a YAML text that say something about nodes or about the document instead of being
nodes.
-/

namespace ClusterCapacity.Yaml

/-- A tag: the handle that a directive may stand for, and what follows it. -/
structure Tag where
  handle : String
  suffix : String
deriving DecidableEq, Repr

/-- A directive of a document. -/
inductive Directive where
  | version (major minor : Nat)
  /-- What a tag handle stands for. -/
  | handle (handle expansion : String)
deriving DecidableEq, Repr

/-! ### Anchors -/

/-- Whether an anchor's name may end before this text. -/
def endsAnchor : List Char → Bool
  | [] => true
  | c :: _ => isSpace c || "?:,]\x7d%@`".toList.contains c

/-- Takes the name of an anchor or alias. -/
def scanAnchor (cursor : Cursor) : Except Fault (String × Cursor) :=
  let (name, cursor) := cursor.takeWhile isWordChar
  if name.isEmpty || !endsAnchor cursor.rest then .error .badAnchor
  else .ok (String.ofList name, cursor)

/-! ### Tags -/

/-- A character of a tag; inside angle brackets there are three more. -/
def isTagChar (bracketed : Bool) (c : Char) : Bool :=
  isWordChar c || ";/?:@&=+$.%!~*'()".toList.contains c
    || (bracketed && ",[]".toList.contains c)

/-- The octet that is escaped at the head of a text. -/
def octet? : List Char → Option Nat
  | '%' :: a :: b :: _ => do return 16 * (← hexDigit? a) + (← hexDigit? b)
  | _ => none

/-- Takes `count` escaped octets that go on with a character. -/
def moreOctets (value : Nat) (text : List Char) : Nat → Option Nat
  | 0 => some value
  | count + 1 => do
    let octet ← octet? text
    if octet / 64 = 2 then moreOctets (64 * value + octet % 64) (text.drop 3) count else none

/-- The escaped character at the head of a text, and its number of octets. -/
def escapedOctets? (text : List Char) : Option (Char × Nat) := do
  let octet ← octet? text
  let (value, more) ←
    if octet < 0x80 then some (octet, 0)
    else if octet / 32 = 6 then some (octet % 32, 1)
    else if octet / 16 = 14 then some (octet % 16, 2)
    else if octet / 8 = 30 then some (octet % 8, 3)
    else none
  let code ← moreOctets value (text.drop 3) more
  return (if code.isValidChar then Char.ofNat code else '\uFFFD', more + 1)

/-- Takes the characters of a tag, `done` being the reversed beginning. -/
def scanTagChars (bracketed : Bool) (mark : Mark) (done : List Char) (text : List Char) :
    Except Fault (List Char × Cursor) :=
  match text with
  | [] => .ok (done.reverse, ⟨mark, []⟩)
  | c :: rest =>
    if c = '%' then
      match escapedOctets? (c :: rest) with
      | some (escaped, octets) =>
        scanTagChars bracketed (mark.advance (3 * octets)) (escaped :: done)
          (rest.drop (3 * octets - 1))
      | none => .error .badTag
    else if isTagChar bracketed c then scanTagChars bracketed mark.next (c :: done) rest
    else .ok (done.reverse, ⟨mark, c :: rest⟩)
termination_by text.length
decreasing_by all_goals (simp only [List.length_cons, List.length_drop]; omega)

/-- Takes the characters of a tag, of which there has to be one. -/
def scanTagText (bracketed : Bool) (cursor : Cursor) : Except Fault (String × Cursor) := do
  let (text, cursor) ← scanTagChars bracketed cursor.mark [] cursor.rest
  if text.isEmpty then .error .badTag else .ok (String.ofList text, cursor)

/-- Takes an exclamation mark, a word, and one more exclamation mark if there is one. -/
def scanHandle (cursor : Cursor) : Except Fault (List Char × Cursor) :=
  match cursor.rest with
  | '!' :: _ =>
    let (word, cursor) := (cursor.advance 1).takeWhile isWordChar
    match cursor.rest with
    | '!' :: _ => .ok ('!' :: (word ++ ['!']), cursor.advance 1)
    | _ => .ok ('!' :: word, cursor)
  | _ => .error .badTag

/-- Takes a tag, without looking at what follows it. -/
def scanTagBody (cursor : Cursor) : Except Fault (Tag × Cursor) := do
  if cursor.rest[1]? = some '<' then
    let (suffix, cursor) ← scanTagText true (cursor.advance 2)
    if cursor.rest.head? = some '>' then .ok (⟨"", suffix⟩, cursor.advance 1) else .error .badTag
  else
    let (handle, cursor) ← scanHandle cursor
    if 2 ≤ handle.length && handle.getLast? = some '!' then
      let (suffix, cursor) ← scanTagText false cursor
      .ok (⟨String.ofList handle, suffix⟩, cursor)
    else
      let (more, cursor) ← scanTagChars false cursor.mark [] cursor.rest
      match handle.drop 1 ++ more with
      | [] => .ok (⟨"", "!"⟩, cursor)
      | suffix => .ok (⟨"!", String.ofList suffix⟩, cursor)

/-- Takes a tag; white space has to follow it, or a comma inside flow brackets. -/
def scanTag (flow : Bool) (cursor : Cursor) : Except Fault (Tag × Cursor) := do
  let (tag, cursor) ← scanTagBody cursor
  if atSpace cursor.rest || (flow && cursor.rest.head? = some ',') then .ok (tag, cursor)
  else .error .badTag

/-! ### Directives -/

/-- Takes a number of at most nine digits. -/
def scanVersionPart (cursor : Cursor) : Except Fault (Nat × Cursor) :=
  let (digits, cursor) := cursor.takeWhile Char.isDigit
  if digits.isEmpty || 9 < digits.length then .error .badDirective
  else .ok (digits.foldl (fun value d => 10 * value + (d.toNat - '0'.toNat)) 0, cursor)

/-- Takes what follows the name of a version directive. -/
def scanVersion (cursor : Cursor) : Except Fault (Directive × Cursor) := do
  let (major, cursor) ← scanVersionPart (cursor.skipWhile isBlank)
  if cursor.rest.head? = some '.' then
    let (minor, cursor) ← scanVersionPart (cursor.advance 1)
    .ok (.version major minor, cursor)
  else .error .badDirective

/-- Takes what follows the name of a handle directive. -/
def scanHandleDirective (cursor : Cursor) : Except Fault (Directive × Cursor) := do
  let (handle, cursor) ← scanHandle (cursor.skipWhile isBlank)
  if (handle.length = 1 || handle.getLast? = some '!') && cursor.rest.head?.any isBlank then
    let (expansion, cursor) ← scanTagText true (cursor.skipWhile isBlank)
    if atSpace cursor.rest then .ok (.handle (String.ofList handle) expansion, cursor)
    else .error .badDirective
  else .error .badDirective

/-- Takes a directive after its percent sign, with the rest of its line. -/
def scanDirective (cursor : Cursor) : Except Fault (Directive × Cursor) := do
  let (name, cursor) := cursor.takeWhile isWordChar
  if name.isEmpty || !atSpace cursor.rest then .error .badDirective
  else
    let (directive, cursor) ←
      if name = "YAML".toList then scanVersion cursor
      else if name = "TAG".toList then scanHandleDirective cursor
      else .error .badDirective
    .ok (directive, ← cursor.endLine .badDirective)

end ClusterCapacity.Yaml
