import ClusterCapacity.Yaml.Property

/-!
# The tokens of a YAML text

Indentation and keys are made explicit: a block begins with a token of its own where the
indentation grows and ends with one where it shrinks, and the token for a key is put in front of
what turns out to be one when its colon is found.  A key without a question mark lies on one line
and is at most 1024 characters long.
-/

namespace ClusterCapacity.Yaml

/-- A token of a YAML text. -/
inductive Token where
  | directive (directive : Directive)
  | documentStart
  | documentEnd
  | blockSequenceStart
  | blockMappingStart
  | blockEnd
  | flowSequenceStart
  | flowSequenceEnd
  | flowMappingStart
  | flowMappingEnd
  | blockEntry
  | flowEntry
  | key
  | value
  | alias (name : String)
  | anchor (name : String)
  | tag (tag : Tag)
  | scalar (style : Style) (text : String)
deriving DecidableEq, Repr

/-- A place where a key may have begun. -/
structure KeyMark where
  /-- How many tokens there were before it. -/
  position : Nat
  mark : Mark
  /-- Whether nothing but a key can stand there. -/
  required : Bool
deriving DecidableEq, Repr

/-- Whether a key that began there may still end here. -/
def KeyMark.reaches (key : KeyMark) (mark : Mark) : Bool :=
  key.mark.line = mark.line && mark.index ≤ key.mark.index + 1024

/-- What has been scanned of a text. -/
structure Scanner where
  cursor : Cursor
  /-- The tokens so far, the last one first. -/
  tokens : List Token := []
  count : Nat := 0
  /-- The columns of the open blocks, the innermost first. -/
  indents : List Nat := []
  /-- Whether a key may begin here. -/
  keyAllowed : Bool := true
  /-- Where a key may have begun, for each open flow bracket and for the text around them. -/
  keys : List (Option KeyMark) := [none]

namespace Scanner

/-! ### Tokens and places -/

/-- The scanner of a text. -/
def ofText (text : List Char) : Scanner := { cursor := ⟨{}, text⟩ }

/-- The place that has been reached. -/
def mark (scanner : Scanner) : Mark := scanner.cursor.mark

/-- Whether a flow bracket is open. -/
def inFlow (scanner : Scanner) : Bool := 1 < scanner.keys.length

/-- Appends a token. -/
def push (scanner : Scanner) (token : Token) : Scanner :=
  { scanner with tokens := token :: scanner.tokens, count := scanner.count + 1 }

/-- Puts a token behind the first `position` tokens. -/
def insert (scanner : Scanner) (position : Nat) (token : Token) : Scanner :=
  let later := scanner.count - position
  { scanner with
    tokens := scanner.tokens.take later ++ token :: scanner.tokens.drop later
    count := scanner.count + 1 }

/-- Goes on by `count` characters of the line. -/
def advance (scanner : Scanner) (count : Nat) : Scanner :=
  { scanner with cursor := scanner.cursor.advance count }

/-- Appends a token of `count` characters. -/
def take (scanner : Scanner) (count : Nat) (token : Token) : Scanner :=
  (scanner.advance count).push token

/-! ### Indentation -/

/-- Appends an end for every block that is indented deeper than `column`. -/
def closeBlocks (tokens : List Token) (count : Nat) (column : Nat) :
    List Nat → List Token × Nat × List Nat
  | [] => (tokens, count, [])
  | indent :: outer =>
    if column < indent then closeBlocks (.blockEnd :: tokens) (count + 1) column outer
    else (tokens, count, indent :: outer)

/-- Ends the blocks that a token at `column` cannot be part of. -/
def unindent (scanner : Scanner) (column : Nat) : Scanner :=
  if scanner.inFlow then scanner
  else
    let (tokens, count, indents) :=
      closeBlocks scanner.tokens scanner.count column scanner.indents
    { scanner with tokens, count, indents }

/-- Ends all blocks. -/
def closeAll (scanner : Scanner) : Scanner :=
  if scanner.inFlow then scanner
  else
    { scanner with
      tokens := scanner.indents.map (fun _ => .blockEnd) ++ scanner.tokens
      count := scanner.count + scanner.indents.length
      indents := [] }

/-- Begins a block at `column` if no open block is there, its token behind the first `position`
tokens. -/
def indent (scanner : Scanner) (column position : Nat) (token : Token) : Scanner :=
  if scanner.inFlow || scanner.indents.head?.any (column ≤ ·) then scanner
  else { scanner.insert position token with indents := column :: scanner.indents }

/-- The least column of what continues in the innermost block. -/
def floor (scanner : Scanner) : Nat :=
  match scanner.indents with
  | [] => 0
  | indent :: _ => indent + 1

/-! ### Keys -/

/-- Replaces the innermost key mark. -/
def setKey (scanner : Scanner) (key : Option KeyMark) : Scanner :=
  { scanner with keys := key :: scanner.keys.drop 1 }

/-- The innermost key mark. -/
def key? (scanner : Scanner) : Option KeyMark := scanner.keys.head?.join

/-- Gives up the innermost key mark. -/
def dropKey (scanner : Scanner) : Except Fault Scanner :=
  if scanner.key?.any KeyMark.required then .error .missingColon else .ok (scanner.setKey none)

/-- Marks the place as one where a key may begin, if one may. -/
def markKey (scanner : Scanner) : Except Fault Scanner := do
  if scanner.keyAllowed then
    let scanner ← scanner.dropKey
    .ok (scanner.setKey (some {
      position := scanner.count
      mark := scanner.mark
      required := !scanner.inFlow && scanner.indents.head? = some scanner.mark.column }))
  else .ok scanner

/-- Gives up the key marks that are too far behind. -/
def dropStaleKeys (scanner : Scanner) : Except Fault Scanner := do
  let keys ← scanner.keys.mapM (fun key? =>
    match key? with
    | none => .ok none
    | some key =>
      if key.reaches scanner.mark then .ok (some key)
      else if key.required then .error .missingColon
      else .ok none)
  .ok { scanner with keys }

/-! ### White space between tokens -/

/-- Passes white space and comments.  Outside flow brackets a tab is none where a key may begin, and
a key may begin on every new line. -/
def skipSpace (flow : Bool) (keyAllowed inComment : Bool) (mark : Mark) :
    List Char → Bool × Cursor
  | [] => (keyAllowed, ⟨mark, []⟩)
  | c :: rest =>
    if isBreak c then skipSpace flow (keyAllowed || !flow) false mark.newLine rest
    else if inComment || c = ' ' || (c = '\t' && (flow || !keyAllowed)) then
      skipSpace flow keyAllowed inComment mark.next rest
    else if c = '#' then skipSpace flow keyAllowed true mark.next rest
    else (keyAllowed, ⟨mark, c :: rest⟩)

/-- Goes to the next token. -/
def toNextToken (scanner : Scanner) : Except Fault Scanner := do
  let (keyAllowed, cursor) :=
    skipSpace scanner.inFlow scanner.keyAllowed false scanner.mark scanner.cursor.rest
  let scanner ← { scanner with keyAllowed, cursor }.dropStaleKeys
  .ok (scanner.unindent scanner.mark.column)

/-! ### One token -/

/-- Takes a token that belongs to no block. -/
def takeOutside (scanner : Scanner) : Except Fault Scanner := do
  .ok { ← scanner.closeAll.dropKey with keyAllowed := false }

/-- Takes a directive. -/
def takeDirective (scanner : Scanner) : Except Fault Scanner := do
  let scanner ← scanner.takeOutside
  let (directive, cursor) ← scanDirective (scanner.cursor.advance 1)
  .ok ({ scanner with cursor }.push (.directive directive))

/-- Takes a mark between documents. -/
def takeDocumentMark (scanner : Scanner) (token : Token) : Except Fault Scanner := do
  .ok ((← scanner.takeOutside).take 3 token)

/-- Takes an opening flow bracket. -/
def openFlow (scanner : Scanner) (token : Token) : Except Fault Scanner := do
  let scanner ← scanner.markKey
  .ok ({ scanner with keys := none :: scanner.keys, keyAllowed := true }.take 1 token)

/-- Takes a closing flow bracket. -/
def closeFlow (scanner : Scanner) (token : Token) : Except Fault Scanner := do
  let scanner ← scanner.dropKey
  let keys := if scanner.inFlow then scanner.keys.drop 1 else scanner.keys
  .ok ({ scanner with keys, keyAllowed := false }.take 1 token)

/-- Takes a comma inside flow brackets. -/
def takeFlowEntry (scanner : Scanner) : Except Fault Scanner := do
  .ok ({ ← scanner.dropKey with keyAllowed := true }.take 1 .flowEntry)

/-- Takes a hyphen before an item. -/
def takeBlockEntry (scanner : Scanner) : Except Fault Scanner := do
  if !scanner.inFlow && !scanner.keyAllowed then .error .misplacedEntry
  else
    let scanner := scanner.indent scanner.mark.column scanner.count .blockSequenceStart
    .ok ({ ← scanner.dropKey with keyAllowed := true }.take 1 .blockEntry)

/-- Takes a question mark before a key. -/
def takeKey (scanner : Scanner) : Except Fault Scanner := do
  if !scanner.inFlow && !scanner.keyAllowed then .error .misplacedKey
  else
    let scanner := scanner.indent scanner.mark.column scanner.count .blockMappingStart
    .ok ({ ← scanner.dropKey with keyAllowed := !scanner.inFlow }.take 1 .key)

/-- Takes a colon before a value. -/
def takeValue (scanner : Scanner) : Except Fault Scanner :=
  match scanner.key? with
  | some key =>
    let scanner := scanner.insert key.position .key
    let scanner := scanner.indent key.mark.column key.position .blockMappingStart
    .ok ({ scanner.setKey none with keyAllowed := false }.take 1 .value)
  | none =>
    if !scanner.inFlow && !scanner.keyAllowed then .error .misplacedValue
    else
      let scanner := scanner.indent scanner.mark.column scanner.count .blockMappingStart
      .ok ({ scanner with keyAllowed := !scanner.inFlow }.take 1 .value)

/-- Takes a token that may be a key, or begin one, with the given scan of its text. -/
def takeKeyPart {α : Type} (scanner : Scanner) (scan : Cursor → Except Fault (α × Cursor))
    (token : α → Token) : Except Fault Scanner := do
  let scanner ← scanner.markKey
  let (text, cursor) ← scan scanner.cursor
  .ok ({ scanner with cursor, keyAllowed := false }.push (token text))

/-- Takes a quoted scalar. -/
def takeQuoted (scanner : Scanner) (style : Style)
    (scan : Mark → Gap → List Char → List Char → Except Fault (List Char × Cursor)) :
    Except Fault Scanner :=
  scanner.takeKeyPart (fun cursor => scan cursor.mark.next .none [] (cursor.rest.drop 1))
    (fun text => .scalar style (String.ofList text))

/-- Takes a block scalar. -/
def takeBlock (scanner : Scanner) (style : Style) : Except Fault Scanner := do
  let scanner ← scanner.dropKey
  let (text, cursor) ← scanBlock (style = .folded) scanner.floor (scanner.indents.head?.getD 0)
    (scanner.cursor.advance 1)
  .ok ({ scanner with cursor, keyAllowed := true }.push (.scalar style (String.ofList text)))

/-- Takes a plain scalar; a key may begin after its line. -/
def takePlain (scanner : Scanner) : Except Fault Scanner := do
  let scanner ← scanner.markKey
  let plain ← scanPlain scanner.inFlow scanner.floor scanner.mark .none [] scanner.cursor.rest
  .ok ({ scanner with cursor := plain.cursor, keyAllowed := plain.beforeBreak }.push
    (.scalar .plain (String.ofList plain.text)))

/-- Whether a plain scalar can begin with `c` before `rest`. -/
def startsPlain (flow : Bool) (c : Char) (rest : List Char) : Bool :=
  (!isSpace c && !"-?:,[]\x7b\x7d#&*!|>'\"%@`".toList.contains c)
    || (c = '-' && !rest.head?.any isBlank)
    || (!flow && (c = '?' || c = ':') && !atSpace rest)

/-- Takes the token that begins with `c` before `rest`. -/
def takeToken (scanner : Scanner) (c : Char) (rest : List Char) : Except Fault Scanner :=
  let flow := scanner.inFlow
  let newLine := scanner.mark.column = 0
  if newLine && c = '%' then scanner.takeDirective
  else if newLine && atDocumentMark (c :: rest) then
    scanner.takeDocumentMark (if c = '-' then .documentStart else .documentEnd)
  else if c = '[' then scanner.openFlow .flowSequenceStart
  else if c = '{' then scanner.openFlow .flowMappingStart
  else if c = ']' then scanner.closeFlow .flowSequenceEnd
  else if c = '}' then scanner.closeFlow .flowMappingEnd
  else if c = ',' then scanner.takeFlowEntry
  else if c = '-' && atSpace rest then scanner.takeBlockEntry
  else if c = '?' && (flow || atSpace rest) then scanner.takeKey
  else if c = ':' && (flow || atSpace rest) then scanner.takeValue
  else if c = '*' then scanner.takeKeyPart (fun cursor => scanAnchor (cursor.advance 1)) .alias
  else if c = '&' then scanner.takeKeyPart (fun cursor => scanAnchor (cursor.advance 1)) .anchor
  else if c = '!' then scanner.takeKeyPart (scanTag flow) .tag
  else if c = '|' && !flow then scanner.takeBlock .literal
  else if c = '>' && !flow then scanner.takeBlock .folded
  else if c = '\'' then scanner.takeQuoted .singleQuoted scanSingle
  else if c = '"' then scanner.takeQuoted .doubleQuoted scanDouble
  else if startsPlain flow c rest then scanner.takePlain
  else .error .forbiddenStart

/-! ### The whole text -/

/-- Ends the blocks at the end of the text. -/
def finish (scanner : Scanner) : Except Fault Scanner := scanner.closeAll.dropKey

/-- Takes tokens up to the end of the text, at most `fuel` of them. -/
def run : Nat → Scanner → Except Fault Scanner
  | 0, scanner => .ok scanner
  | fuel + 1, scanner => do
    let scanner ← scanner.toNextToken
    match scanner.cursor.rest with
    | [] => scanner.finish
    | c :: rest => run fuel (← scanner.takeToken c rest)

end Scanner

/-- The tokens of a prepared text; every token takes a character, so their number is enough fuel. -/
def Token.scan (text : List Char) : Except Fault (List Token) := do
  let scanner ← Scanner.run (text.length + 1) (.ofText text)
  .ok scanner.tokens.reverse

end ClusterCapacity.Yaml
