import ClusterCapacity.Decimal.Bounds
import ClusterCapacity.Wire.DecodeError
import ClusterCapacity.Wire.Format
import ClusterCapacity.Yaml.Integer
import ClusterCapacity.Yaml.Node

/-!
# Reading YAML

A reader takes a value from a node; an alias is read as the node that it stands for.  Any scalar is
a text, only a plain one is a number, and nothing at all is an empty list, map or record.  Following
aliases is limited to a hundred times the number of events in the document.
-/

namespace ClusterCapacity.Yaml

open Wire

/-- Reading within a document, with the number of aliases followed so far. -/
abbrev Reading := ReaderT Document (StateT Nat (Except DecodeError))

/-- A way of reading an `α` from a node. -/
def Reader (α : Type) : Type := Node → Reading α

namespace Reader

variable {α : Type}

/-- The tag of numbers. -/
def integerTag : String := "tag:yaml.org,2002:int"

/-- The tag of nothing. -/
def nullTag : String := "tag:yaml.org,2002:null"

/-- The node that a node stands for. -/
def resolve (node : Node) : Reading Node :=
  match node with
  | .alias slot => do
    let document ← read
    let followed ← get
    if 100 * document.events < followed + 1 then throw (.yaml .tooManyAliases)
    else
      set (followed + 1)
      match document.node? slot with
      | some node => return node
      | none => throw (.yaml .unknownAnchor)
  | node => return node

/-- What a node shows of a value. -/
def found : Node → Found
  | .scalar _ _ text => .string text
  | .sequence _ _ => .sequence
  | .mapping _ _ => .map
  | .void => .null
  | .alias _ => .null

/-- Fails because of a node that is not what is expected. -/
def mismatch (expected : String) (node : Node) : Reading α :=
  throw (.unexpected (found node) expected)

/-- Whether nothing is written at the node. -/
def isBlank : Node → Bool
  | .void => true
  | .scalar style _ text => style = .plain && text.isEmpty
  | _ => false

/-- Whether a text means nothing. -/
def isNull (text : String) : Bool :=
  text = "~" || text = "null" || text = "Null" || text = "NULL"

/-! ### Single values -/

/-- Whether a scalar may be a number: a plain one, or a literal block with the tag of numbers. -/
def mayBeInteger (style : Style) (tag : Option String) : Bool :=
  style = .plain || (style = .literal && tag = some integerTag)

/-- Reads a 64-bit number. -/
def int64 : Reader Int64 := fun node => do
  match ← resolve node with
  | .scalar style tag text =>
    match if mayBeInteger style tag then Integer.ofText? text.toList else none with
    | some value =>
      if Decimal.fitsInt64 value then return Int64.ofInt value
      else throw (.outOfRange (.integer value) "i64")
    | none => mismatch "i64" (.scalar style tag text)
  | node => mismatch "i64" node

/-- Reads a text. -/
def text : Reader String := fun node => do
  match ← resolve node with
  | .scalar _ _ text => return text
  | node => mismatch "a string" node

/-- Whether a node is the mark for none; `none` when its tag says so and its text does not. -/
def isNone? : Node → Option Bool
  | .void => some true
  | .scalar .plain tag text =>
    match tag with
    | none => some (text.isEmpty || isNull text)
    | some tag => if tag = nullTag then (if isNull text then some true else none) else some false
  | _ => some false

/-- Reads the mark for none or a value. -/
def optional (read : Reader α) : Reader (Option α) := fun node => do
  let node ← resolve node
  match isNone? node with
  | some true => return none
  | some false => some <$> read node
  | none => mismatch "null" node

/-! ### Lists and maps -/

/-- Reads a list. -/
def list (read : Reader α) : Reader (List α) := fun node => do
  match ← resolve node with
  | .sequence _ items => items.mapM read
  | node => if isBlank node then return [] else mismatch "a sequence" node

/-- The pairs of a mapping. -/
def pairs (expected : String) (node : Node) : Reading (List (Node × Node)) := do
  match ← resolve node with
  | .mapping _ pairs => return pairs
  | node => if isBlank node then return [] else mismatch expected node

/-- Reads a map. -/
def entries (expected : String) (read : Reader α) : Reader (List (String × α)) := fun node => do
  (← pairs expected node).mapM (fun (key, value) => do return (← text key, ← read value))

/-! ### Choices -/

/-- The name in a tag that begins with an exclamation mark. -/
def tagName? (tag : Option String) : Option String :=
  match tag.map String.toList with
  | some ('!' :: name) => some (String.ofList name)
  | _ => none

/-- The choice of the given name. -/
def named (choices : List (String × α)) (name : String) : Reading α :=
  match choices.lookup name with
  | some value => return value
  | none => throw (.unknownChoice name (choices.map Prod.fst))

/-- Reads a choice: its name, or a tag of its name on nothing. -/
def choice (choices : List (String × α)) : Reader α := fun node => do
  match ← resolve node with
  | .scalar style tag text =>
    match tagName? tag with
    | some name =>
      let value ← named choices name
      if style = .plain && (text.isEmpty || isNull text) then return value
      else mismatch "null" (.scalar style tag text)
    | none => named choices text
  | node => mismatch "a name" node

/-! ### Records -/

variable {σ : Type}

/-- Reads one member of a record into a draft; unknown members are passed over and a known one is
given once. -/
def member (record : Record Reader σ α) (draft : σ) (pair : Node × Node) : Reading σ := do
  let name ← text pair.1
  match record.field? name with
  | none => return draft
  | some field =>
    if field.isGiven draft then throw (.duplicateField field.name)
    else return (← field.read pair.2) draft

/-- Reads a record from a mapping. -/
def record (record : Record Reader σ α) : Reader α := fun node => do
  let draft ← (← pairs record.title node).foldlM (member record) record.blank
  match record.finish draft with
  | .ok value => return value
  | .error name => throw (.missingField name)

end Reader

instance : Functor Reader where
  map f read := fun node => f <$> read node

instance : Format Reader where
  int64 := Reader.int64
  text := Reader.text
  optional := Reader.optional
  list := Reader.list
  entries := Reader.entries
  choice := Reader.choice
  record := Reader.record

/-- Reads a whole text. -/
def decode {α : Type} (read : Reader α) (text : String) : Except DecodeError α :=
  match Document.ofText text with
  | .error fault => .error (.yaml fault)
  | .ok document => do
    let (value, _) ← (read document.root document).run 0
    .ok value

end ClusterCapacity.Yaml
