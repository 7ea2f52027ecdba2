import ClusterCapacity.Yaml.Character

/-!
# Scalars in YAML texts

A scalar is plain, in single or double quotes, or a block, literal or folded.  White space inside
the first three is folded: blanks around a line break vanish, a single break becomes a space and
of several breaks all but the first stay.
-/

namespace ClusterCapacity.Yaml

/-- How a scalar is written. -/
inductive Style where
  | plain | singleQuoted | doubleQuoted | literal | folded
deriving DecidableEq, Repr

/-! ### White space between words -/

/-- White space that has been seen inside a scalar. -/
inductive Gap where
  | none
  | blanks (blanks : List Char)
  /-- The first line break and those after it; there is no first one after an escaped break. -/
  | lines (first more : List Char)
deriving DecidableEq, Repr

namespace Gap

/-- One more blank; it vanishes next to a line break. -/
def addBlank (c : Char) : Gap → Gap
  | .none => .blanks [c]
  | .blanks before => .blanks (before ++ [c])
  | .lines first more => .lines first more

/-- One more line break; blanks before it vanish. -/
def addBreak (c : Char) : Gap → Gap
  | .none => .lines [c] []
  | .blanks _ => .lines [c] []
  | .lines first more => .lines first (more ++ [c])

/-- What a gap between two words reads as. -/
def text : Gap → List Char
  | .none => []
  | .blanks between => between
  | .lines first more =>
    if first = ['\n'] then (if more.isEmpty then [' '] else more) else first ++ more

/-- Whether the gap reaches over a line break. -/
def isLines : Gap → Bool
  | .lines _ _ => true
  | _ => false

/-- Puts the gap onto a reversed text. -/
def onto (gap : Gap) (done : List Char) : List Char := gap.text.reverse ++ done

end Gap

/-! ### Quoted scalars -/

/-- The character that a letter after the backslash stands for. -/
def escaped? : Char → Option Char
  | '0' => some '\x00'
  | 'a' => some '\x07'
  | 'b' => some '\x08'
  | 't' => some '\t'
  | '\t' => some '\t'
  | 'n' => some '\n'
  | 'v' => some '\x0b'
  | 'f' => some '\x0c'
  | 'r' => some '\r'
  | 'e' => some '\x1b'
  | ' ' => some ' '
  | '"' => some '"'
  | '/' => some '/'
  | '\\' => some '\\'
  | 'N' => some '\u0085'
  | '_' => some '\u00a0'
  | 'L' => some '\u2028'
  | 'P' => some '\u2029'
  | _ => none

/-- How many hexadecimal digits follow a letter after the backslash. -/
def escapeLength? : Char → Option Nat
  | 'x' => some 2
  | 'u' => some 4
  | 'U' => some 8
  | _ => none

/-- The value of a hexadecimal digit. -/
def hexDigit? (c : Char) : Option Nat :=
  if '0' ≤ c ∧ c ≤ '9' then some (c.toNat - '0'.toNat)
  else if 'a' ≤ c ∧ c ≤ 'f' then some (c.toNat - 'a'.toNat + 10)
  else if 'A' ≤ c ∧ c ≤ 'F' then some (c.toNat - 'A'.toNat + 10)
  else none

/-- The character whose code point is written in `count` hexadecimal digits. -/
def codePoint? (count : Nat) (digits : List Char) : Option Char := do
  if digits.length ≠ count then none
  else
    let value ← digits.foldlM (fun value c => (hexDigit? c).map (16 * value + ·)) 0
    if value.isValidChar then some (Char.ofNat value) else none

/-- Reads the text after an opening single quote, `done` being its reversed beginning. -/
def scanSingle (mark : Mark) (gap : Gap) (done : List Char) :
    List Char → Except Fault (List Char × Cursor)
  | [] => .error .unclosedQuote
  | c :: rest =>
    if isBlank c then scanSingle mark.next (gap.addBlank c) done rest
    else if isBreak c then scanSingle mark.newLine (gap.addBreak c) done rest
    else if mark.column = 0 && atDocumentMark (c :: rest) then .error .markInQuotes
    else if c = '\'' then
      match rest with
      | '\'' :: rest => scanSingle (mark.advance 2) .none ('\'' :: gap.onto done) rest
      | rest => .ok ((gap.onto done).reverse, ⟨mark.next, rest⟩)
    else scanSingle mark.next .none (c :: gap.onto done) rest

/-- Reads the text after an opening double quote, `done` being its reversed beginning. -/
def scanDouble (mark : Mark) (gap : Gap) (done : List Char) (text : List Char) :
    Except Fault (List Char × Cursor) :=
  match text with
  | [] => .error .unclosedQuote
  | c :: rest =>
    if isBlank c then scanDouble mark.next (gap.addBlank c) done rest
    else if isBreak c then scanDouble mark.newLine (gap.addBreak c) done rest
    else if mark.column = 0 && atDocumentMark (c :: rest) then .error .markInQuotes
    else if c = '"' then .ok ((gap.onto done).reverse, ⟨mark.next, rest⟩)
    else if c = '\\' then
      match rest with
      | [] => .error .badEscape
      | e :: rest =>
        if isBreak e then scanDouble mark.next.newLine (.lines [] []) (gap.onto done) rest
        else
          match escapeLength? e with
          | some count =>
            match codePoint? count (rest.take count) with
            | some c =>
              scanDouble (mark.advance (2 + count)) .none (c :: gap.onto done) (rest.drop count)
            | none => .error .badEscape
          | none =>
            match escaped? e with
            | some c => scanDouble (mark.advance 2) .none (c :: gap.onto done) rest
            | none => .error .badEscape
    else scanDouble mark.next .none (c :: gap.onto done) rest
termination_by text.length
decreasing_by all_goals simp_all <;> omega

/-! ### Plain scalars -/

/-- A plain scalar, and whether white space with a line break followed it. -/
structure Plain where
  text : List Char
  beforeBreak : Bool
  cursor : Cursor

/-- Whether a character ends a word inside flow brackets. -/
def isFlowIndicator (c : Char) : Bool := c = ',' || c = '[' || c = ']' || c = '{' || c = '}'

/-- Whether a colon before this text is out of place inside flow brackets. -/
def atFlowIndicator : List Char → Bool
  | [] => false
  | c :: _ => isFlowIndicator c || c = '?'

/-- Whether the word of a plain scalar ends before this text. -/
def endsWord (flow : Bool) : List Char → Bool
  | [] => true
  | c :: rest => (c = ':' && atSpace rest) || (flow && isFlowIndicator c)

/-- Whether a plain scalar ends before a word at this place, where a gap has been passed: at a
lesser indentation, a comment or a mark between documents. -/
def endsScalar (flow : Bool) (indent : Nat) (mark : Mark) : List Char → Bool
  | [] => true
  | c :: rest =>
    (!flow && mark.column < indent) || c = '#'
      || (mark.column = 0 && atDocumentMark (c :: rest))

/-- Reads a plain scalar that has to be indented to `indent` columns outside flow brackets, `done`
being its reversed beginning.  White space after it is passed. -/
def scanPlain (flow : Bool) (indent : Nat) (mark : Mark) (gap : Gap) (done : List Char) :
    List Char → Except Fault Plain
  | [] => .ok ⟨done.reverse, gap.isLines, ⟨mark, []⟩⟩
  | c :: rest =>
    if isBlank c then
      if gap.isLines && mark.column < indent && c = '\t' then .error .tabInIndentation
      else scanPlain flow indent mark.next (gap.addBlank c) done rest
    else if isBreak c then scanPlain flow indent mark.newLine (gap.addBreak c) done rest
    else if gap ≠ .none && endsScalar flow indent mark (c :: rest) then
      .ok ⟨done.reverse, gap.isLines, ⟨mark, c :: rest⟩⟩
    else if flow && c = ':' && atFlowIndicator rest then .error .unexpectedColon
    else if endsWord flow (c :: rest) then
      .ok ⟨done.reverse, gap.isLines, ⟨mark, c :: rest⟩⟩
    else scanPlain flow indent mark.next .none (c :: gap.onto done) rest

/-! ### Block scalars -/

/-- What happens to the line breaks at the end of a block. -/
inductive Chomping where
  | strip | clip | keep
deriving DecidableEq, Repr

/-- The chomping that a character asks for. -/
def chomping? : Char → Option Chomping
  | '-' => some .strip
  | '+' => some .keep
  | _ => none

/-- Takes the chomping sign and the indentation digit after `|` or `>`, in either order. -/
def scanBlockHeader (text : List Char) : Except Fault (Chomping × Option Nat × Nat) :=
  let digit (c : Char) (chomping : Chomping) (count : Nat) :
      Except Fault (Chomping × Option Nat × Nat) :=
    if c = '0' then .error .badBlockHeader
    else .ok (chomping, some (c.toNat - '0'.toNat), count)
  match text with
  | [] => .ok (.clip, none, 0)
  | c :: rest =>
    match chomping? c with
    | some chomping =>
      match rest with
      | d :: _ => if d.isDigit then digit d chomping 2 else .ok (chomping, none, 1)
      | [] => .ok (chomping, none, 1)
    | none =>
      if c.isDigit then
        match rest.head?.bind chomping? with
        | some chomping => digit c chomping 2
        | none => digit c .clip 1
      else .ok (.clip, none, 0)

/-- Passes indentation and empty lines before a line of a block, of which the indentation may not be
known yet; `deepest` is the greatest column reached. -/
def scanBlockBreaks (indent : Option Nat) (mark : Mark) (deepest : Nat) (breaks : List Char) :
    List Char → Except Fault (List Char × Nat × Cursor)
  | [] => .ok (breaks.reverse, deepest, ⟨mark, []⟩)
  | c :: rest =>
    let outside := match indent with
      | some indent => mark.column < indent
      | none => true
    if c = ' ' && outside then
      scanBlockBreaks indent mark.next (max deepest (mark.column + 1)) breaks rest
    else if c = '\t' && outside then .error .tabInIndentation
    else if isBreak c then scanBlockBreaks indent mark.newLine deepest (c :: breaks) rest
    else .ok (breaks.reverse, deepest, ⟨mark, c :: rest⟩)

/-- What has been read of a block. -/
structure Block where
  /-- The text so far, reversed. -/
  done : List Char := []
  /-- The line break after the last line. -/
  lineBreak : List Char := []
  /-- The empty lines after it. -/
  breaks : List Char
  /-- Whether the last line began with a blank. -/
  afterBlank : Bool := false
  cursor : Cursor

/-- Puts the break before a line onto the text: in a folded block a break between two lines that
begin with words becomes a space, or nothing before empty lines. -/
def Block.join (block : Block) (folded beforeBlank : Bool) : List Char :=
  let joint :=
    if folded && block.lineBreak = ['\n'] && !block.afterBlank && !beforeBlank then
      if block.breaks.isEmpty then [' '] else []
    else block.lineBreak
  block.breaks.reverse ++ joint.reverse ++ block.done

/-- Reads the lines of a block that is indented by `indent` columns, at most `fuel` of them. -/
def scanBlockLines (folded : Bool) (indent : Nat) : Nat → Block → Except Fault Block
  | 0, block => .ok block
  | fuel + 1, block =>
    match block.cursor.rest with
    | [] => .ok block
    | c :: _ =>
      if block.cursor.mark.column ≠ indent then .ok block
      else do
        let done := block.join folded (isBlank c)
        let (line, cursor) := block.cursor.takeWhile (fun c => !isBreak c)
        let (lineBreak, cursor) : List Char × Cursor := match cursor.rest with
          | [] => ([], cursor)
          | c :: rest => ([c], ⟨cursor.mark.newLine, rest⟩)
        let (breaks, _, cursor) ← scanBlockBreaks (some indent) cursor.mark 0 [] cursor.rest
        scanBlockLines folded indent fuel
          ⟨line.reverse ++ done, lineBreak, breaks, isBlank c, cursor⟩

/-- Reads the block scalar after its indicator; `floor` is the least column that the lines may have
and `base` the column that an indentation digit counts from. -/
def scanBlock (folded : Bool) (floor base : Nat) (cursor : Cursor) :
    Except Fault (List Char × Cursor) := do
  let (chomping, increment, count) ← scanBlockHeader cursor.rest
  let cursor ← (cursor.advance count).endLine .badBlockHeader
  let given := increment.map (base + ·)
  let (breaks, deepest, cursor) ← scanBlockBreaks given cursor.mark 0 [] cursor.rest
  let indent := given.getD (max deepest (max floor 1))
  let block ← scanBlockLines folded indent (cursor.rest.length + 1) { breaks, cursor }
  let tail := match chomping with
    | .strip => []
    | .clip => block.lineBreak
    | .keep => block.lineBreak ++ block.breaks
  .ok (block.done.reverse ++ tail, block.cursor)

end ClusterCapacity.Yaml
