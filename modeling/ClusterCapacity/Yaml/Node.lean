import ClusterCapacity.Yaml.Token

/-!
# The nodes of a YAML document

`Document.ofTokens` builds the tree of the one document that a text may hold.  An alias stays in the
tree: it stands for an anchor slot, and the document knows the nodes that were put into the slots.
A new anchor gets the slot numbered by the different names so far, so reusing a name can take the
slot of another one away; of two nodes in one slot the one that begins later counts.
-/

namespace ClusterCapacity.Yaml

/-- A node of a document; a text without a document has the node `void`. -/
inductive Node where
  | void
  | alias (slot : Nat)
  | scalar (style : Style) (tag : Option String) (text : String)
  | sequence (tag : Option String) (items : List Node)
  | mapping (tag : Option String) (pairs : List (Node × Node))
deriving Inhabited

/-- The node of nothing at all. -/
def Node.empty : Node := .scalar .plain none ""

/-- A node in an anchor slot. -/
structure Anchored where
  slot : Nat
  /-- The number of the event with which the node begins. -/
  start : Nat
  node : Node

/-- A document: its root, the nodes in its anchor slots, and the number of its events. -/
structure Document where
  root : Node
  anchored : List Anchored
  events : Nat

/-- The node in a slot. -/
def Document.node? (document : Document) (slot : Nat) : Option Node :=
  let later (a b : Anchored) : Anchored := if a.start < b.start then b else a
  match document.anchored.filter (fun anchored => anchored.slot = slot) with
  | [] => none
  | first :: rest => some (rest.foldl later first).node

/-! ### Composing -/

/-- What is left to compose and what has been learnt. -/
structure Composer where
  tokens : List Token
  /-- What tag handles stand for. -/
  handles : List (String × String) := []
  /-- The slots of the anchor names. -/
  slots : List (String × Nat) := []
  anchored : List Anchored := []
  events : Nat := 0

/-- The tag handles that every document knows. -/
def standardHandles : List (String × String) := [("!", "!"), ("!!", "tag:yaml.org,2002:")]

namespace Composer

/-- Goes on with the next token. -/
def skip (composer : Composer) : Composer := { composer with tokens := composer.tokens.drop 1 }

/-- Counts events. -/
def count (composer : Composer) (events : Nat) : Composer :=
  { composer with events := composer.events + events }

/-- The empty node as an event of its own. -/
def emptyNode (composer : Composer) : Node × Composer := (.empty, composer.count 1)

/-- What a tag stands for. -/
def expand (composer : Composer) (tag : Tag) : Except Fault String :=
  if tag.handle.isEmpty then .ok tag.suffix
  else
    match (composer.handles ++ standardHandles).lookup tag.handle with
    | some expansion => .ok (expansion ++ tag.suffix)
    | none => .error .unknownHandle

/-- Gives the next slot to an anchor name. -/
def openSlot (composer : Composer) (name : String) : Nat × Composer :=
  let slot := composer.slots.length
  (slot, { composer with
    slots := if (composer.slots.lookup name).isSome
      then composer.slots.map (fun entry => if entry.1 = name then (name, slot) else entry)
      else composer.slots ++ [(name, slot)] })

/-- Puts a node that began with event `start` into a slot. -/
def fillSlot (composer : Composer) (slot : Option Nat) (start : Nat) (node : Node) : Composer :=
  match slot with
  | none => composer
  | some slot => { composer with anchored := ⟨slot, start, node⟩ :: composer.anchored }

/-- What is said about a node in front of it. -/
structure Properties where
  anchor : Option String := none
  tag : Option Tag := none

/-- Takes an anchor and a tag, in either order. -/
def properties (composer : Composer) : Properties × Composer :=
  match composer.tokens with
  | .anchor anchor :: .tag tag :: _ => (⟨some anchor, some tag⟩, composer.skip.skip)
  | .tag tag :: .anchor anchor :: _ => (⟨some anchor, some tag⟩, composer.skip.skip)
  | .anchor anchor :: _ => (⟨some anchor, none⟩, composer.skip)
  | .tag tag :: _ => (⟨none, some tag⟩, composer.skip)
  | _ => ({}, composer)

/-- Where a node stands. -/
inductive Position where
  /-- Inside flow brackets. -/
  | flow
  | block
  /-- After a key of a block, where a sequence needs no indentation. -/
  | afterKey
deriving DecidableEq, Repr

/-- The tag of a scalar; an exclamation mark alone is none. -/
def scalarTag (tag : Option String) : Option String := if tag = some "!" then none else tag

/-- Whether nothing stands before the token that comes next in a block sequence. -/
def endsBlockItem (indentless : Bool) : List Token → Bool
  | .blockEntry :: _ => true
  | .blockEnd :: _ => true
  | .key :: _ => indentless
  | .value :: _ => indentless
  | _ => false

/-- Whether nothing stands before the token that comes next in a block mapping. -/
def endsBlockPart : List Token → Bool
  | .key :: _ => true
  | .value :: _ => true
  | .blockEnd :: _ => true
  | _ => false

/-- Whether nothing stands before the token that comes next inside flow brackets. -/
def endsFlowPart (close : Token) (beforeValue : Bool) : List Token → Bool
  | .flowEntry :: _ => true
  | .value :: _ => beforeValue
  | token :: _ => token = close
  | [] => false

/-- Goes past the comma before an item or pair that is not the first. -/
def flowEntry (composer : Composer) (first : Bool) : Except Fault Composer :=
  if first then .ok composer
  else
    match composer.tokens with
    | .flowEntry :: _ => .ok composer.skip
    | _ => .error .unexpectedToken

mutual

/-- Composes the node at the head of the tokens; `fuel` bounds the calls inside each other. -/
def node (position : Position) : Nat → Composer → Except Fault (Node × Composer)
  | 0, _ => .error .unexpectedToken
  | fuel + 1, composer =>
    match composer.tokens with
    | .alias name :: _ =>
      match composer.slots.lookup name with
      | some slot => .ok (.alias slot, composer.skip.count 1)
      | none => .error .unknownAnchor
    | _ => do
      let (properties, composer) := composer.properties
      let tag ← properties.tag.mapM composer.expand
      let start := composer.events
      let (slot, composer) : Option Nat × Composer := match properties.anchor with
        | some name => (some (composer.openSlot name).1, (composer.openSlot name).2)
        | none => (none, composer)
      let (node, composer) ← content position properties tag fuel composer
      .ok (node, composer.fillSlot slot start node)

/-- Composes a node after its properties. -/
def content (position : Position) (properties : Properties) (tag : Option String) :
    Nat → Composer → Except Fault (Node × Composer)
  | 0, _ => .error .unexpectedToken
  | fuel + 1, composer =>
    let bare : Except Fault (Node × Composer) :=
      if properties.anchor.isSome || properties.tag.isSome then
        .ok (.scalar .plain tag "", composer.count 1)
      else .error .unexpectedToken
    match composer.tokens with
    | .scalar style text :: _ => .ok (.scalar style (scalarTag tag) text, composer.skip.count 1)
    | .flowSequenceStart :: _ => do
      let (items, composer) ← flowItems true fuel (composer.skip.count 2)
      .ok (.sequence tag items, composer)
    | .flowMappingStart :: _ => do
      let (pairs, composer) ← flowPairs true fuel (composer.skip.count 2)
      .ok (.mapping tag pairs, composer)
    | .blockSequenceStart :: _ =>
      if position = .flow then bare
      else do
        let (items, composer) ← blockItems false fuel (composer.skip.count 2)
        .ok (.sequence tag items, composer)
    | .blockMappingStart :: _ =>
      if position = .flow then bare
      else do
        let (pairs, composer) ← blockPairs fuel (composer.skip.count 2)
        .ok (.mapping tag pairs, composer)
    | .blockEntry :: _ =>
      if position = .afterKey then do
        let (items, composer) ← blockItems true fuel (composer.count 2)
        .ok (.sequence tag items, composer)
      else bare
    | _ => bare

/-- Composes the items of a block sequence; one without indentation ends where no hyphen follows. -/
def blockItems (indentless : Bool) : Nat → Composer → Except Fault (List Node × Composer)
  | 0, _ => .error .unexpectedToken
  | fuel + 1, composer =>
    match composer.tokens with
    | .blockEntry :: rest => do
      let (item, composer) ←
        if endsBlockItem indentless rest then .ok composer.skip.emptyNode
        else node .block fuel composer.skip
      let (items, composer) ← blockItems indentless fuel composer
      .ok (item :: items, composer)
    | .blockEnd :: _ => .ok ([], if indentless then composer else composer.skip)
    | _ => if indentless then .ok ([], composer) else .error .unexpectedToken

/-- Composes the pairs of a block mapping. -/
def blockPairs : Nat → Composer → Except Fault (List (Node × Node) × Composer)
  | 0, _ => .error .unexpectedToken
  | fuel + 1, composer =>
    match composer.tokens with
    | .key :: rest => do
      let (key, composer) ←
        if endsBlockPart rest then .ok composer.skip.emptyNode
        else node .afterKey fuel composer.skip
      let (value, composer) ← match composer.tokens with
        | .value :: rest =>
          if endsBlockPart rest then .ok composer.skip.emptyNode
          else node .afterKey fuel composer.skip
        | _ => .ok composer.emptyNode
      let (pairs, composer) ← blockPairs fuel composer
      .ok ((key, value) :: pairs, composer)
    | .blockEnd :: _ => .ok ([], composer.skip)
    | _ => .error .unexpectedToken

/-- Composes the items of a flow sequence. -/
def flowItems (first : Bool) : Nat → Composer → Except Fault (List Node × Composer)
  | 0, _ => .error .unexpectedToken
  | fuel + 1, composer =>
    match composer.tokens with
    | .flowSequenceEnd :: _ => .ok ([], composer.skip)
    | _ => do
      let composer ← composer.flowEntry first
      match composer.tokens with
      | .flowSequenceEnd :: _ => .ok ([], composer.skip)
      | .key :: _ =>
        let (pair, composer) ← flowItemPair fuel (composer.skip.count 2)
        let (items, composer) ← flowItems false fuel composer
        .ok (.mapping none [pair] :: items, composer)
      | _ =>
        let (item, composer) ← node .flow fuel composer
        let (items, composer) ← flowItems false fuel composer
        .ok (item :: items, composer)

/-- Composes the only pair of a mapping without braces in a flow sequence.  A token that stands
where the key is missing is passed over. -/
def flowItemPair : Nat → Composer → Except Fault ((Node × Node) × Composer)
  | 0, _ => .error .unexpectedToken
  | fuel + 1, composer => do
    let (key, composer) ←
      if endsFlowPart .flowSequenceEnd true composer.tokens then .ok composer.skip.emptyNode
      else node .flow fuel composer
    let (value, composer) ← match composer.tokens with
      | .value :: rest =>
        if endsFlowPart .flowSequenceEnd false rest then .ok composer.skip.emptyNode
        else node .flow fuel composer.skip
      | _ => .ok composer.emptyNode
    .ok ((key, value), composer)

/-- Composes the pairs of a flow mapping; a node alone is a key with an empty value. -/
def flowPairs (first : Bool) : Nat → Composer → Except Fault (List (Node × Node) × Composer)
  | 0, _ => .error .unexpectedToken
  | fuel + 1, composer =>
    match composer.tokens with
    | .flowMappingEnd :: _ => .ok ([], composer.skip)
    | _ => do
      let composer ← composer.flowEntry first
      match composer.tokens with
      | .flowMappingEnd :: _ => .ok ([], composer.skip)
      | .key :: rest =>
        let (key, composer) ←
          if endsFlowPart .flowMappingEnd true rest then .ok composer.skip.emptyNode
          else node .flow fuel composer.skip
        let (value, composer) ← match composer.tokens with
          | .value :: rest =>
            if endsFlowPart .flowMappingEnd false rest then .ok composer.skip.emptyNode
            else node .flow fuel composer.skip
          | _ => .ok composer.emptyNode
        let (pairs, composer) ← flowPairs false fuel composer
        .ok ((key, value) :: pairs, composer)
      | _ =>
        let (key, composer) ← node .flow fuel composer
        let (value, composer) := composer.emptyNode
        let (pairs, composer) ← flowPairs false fuel composer
        .ok ((key, value) :: pairs, composer)

end

/-! ### Documents -/

/-- Takes the directives in front of a document. -/
def directives (version : Bool) (handles : List (String × String)) :
    List Token → Except Fault (List (String × String) × List Token)
  | .directive (.version major minor) :: rest =>
    if version then .error .repeatedDirective
    else if major = 1 && (minor = 1 || minor = 2) then directives true handles rest
    else .error .incompatibleVersion
  | .directive (.handle handle expansion) :: rest =>
    if (handles.lookup handle).isSome then .error .repeatedDirective
    else directives version ((handle, expansion) :: handles) rest
  | tokens => .ok (handles, tokens)

/-- Whether a document that was begun has no content. -/
def endsDocument : List Token → Bool
  | [] => true
  | .directive _ :: _ => true
  | .documentStart :: _ => true
  | .documentEnd :: _ => true
  | _ => false

/-- Composes the root of the document, which may have to be begun by a mark. -/
def root (tokens : List Token) : Except Fault (Node × Composer) := do
  -- a token is passed at the latest by the third call inside each other
  let fuel := 3 * tokens.length + 3
  match tokens with
  | .directive _ :: _ | .documentStart :: _ =>
    match ← directives false [] tokens with
    | (handles, .documentStart :: tokens) =>
      let composer : Composer := { tokens, handles }
      if endsDocument tokens then .ok composer.emptyNode else node .block fuel composer
    | _ => .error .unexpectedToken
  | tokens => node .block fuel { tokens }

end Composer

/-- The document of a list of tokens; there may not be more than one. -/
def Document.ofTokens (tokens : List Token) : Except Fault Document := do
  if tokens.isEmpty then .ok ⟨.void, [], 1⟩
  else
    let (root, composer) ← Composer.root tokens
    if (composer.tokens.dropWhile (· = .documentEnd)).isEmpty then
      .ok ⟨root, composer.anchored, composer.events⟩
    else .error .severalDocuments

/-- The document of a text. -/
def Document.ofText (text : String) : Except Fault Document := do
  ofTokens (← Token.scan (← prepare text))

end ClusterCapacity.Yaml
