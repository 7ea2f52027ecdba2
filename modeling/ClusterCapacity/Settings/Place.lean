import ClusterCapacity.Settings.Tree

/-!
# Places in settings

The key of an entry can name a place inside tables and lists, such as `display_tiers[0]` or
`master.url`; items are counted from the end by negative numbers.  A key of any other form is one
name.  Putting a value at a place makes the tables and lists on the way.
-/

namespace ClusterCapacity.Settings

/-- One step into a table or a list. -/
inductive Step where
  | entry (name : String)
  | item (index : Int)
deriving DecidableEq, Repr

/-- A place below the root of the settings. -/
abbrev Place := List Step

namespace Place

/-- The characters of names in places. -/
def isNameChar (c : Char) : Bool := c.isAlphanum || c = '_' || c = '-'

/-- The blanks around an index. -/
def isIndexBlank (c : Char) : Bool := c = ' ' || c = '\t'

/-- The number between brackets. -/
def index? (text : List Char) : Option Int :=
  let text := text.dropWhile isIndexBlank
  let text := (text.reverse.dropWhile isIndexBlank).reverse
  let (negative, digits) : Bool × List Char := match text with
    | '-' :: digits => (true, digits)
    | digits => (false, digits)
  if digits.isEmpty || !digits.all Char.isDigit then none
  else
    let value : Int := Decimal.digitsValue digits
    let value := if negative then -value else value
    if Decimal.fitsInt64 value then some value else none

/-- The steps after the first name, of which there are at most `fuel`. -/
def steps? : Nat → List Char → Option Place
  | _, [] => some []
  | 0, _ => none
  | fuel + 1, '.' :: rest =>
    let name := rest.takeWhile isNameChar
    if name.isEmpty then none
    else (steps? fuel (rest.dropWhile isNameChar)).map (.entry (String.ofList name) :: ·)
  | fuel + 1, '[' :: rest =>
    match rest.dropWhile (· ≠ ']') with
    | [] => none
    | _ :: after => do
      let index ← index? (rest.takeWhile (· ≠ ']'))
      return .item index :: (← steps? fuel after)
  | _ + 1, _ => none

/-- The place that a key names. -/
def ofKey (key : String) : Place :=
  let name := key.toList.takeWhile isNameChar
  let rest := key.toList.dropWhile isNameChar
  let steps := if name.isEmpty then none else steps? rest.length rest
  match steps with
  | some steps => .entry (String.ofList name) :: steps
  | none => [.entry key]

/-- The items of a list with enough of them for an index, and the position of that index. -/
def reach (index : Int) (items : List Tree) : List Tree × Nat :=
  let missing (count : Nat) : List Tree := List.replicate count (.null none)
  if 0 ≤ index then (items ++ missing (index.toNat + 1 - items.length), index.toNat)
  else if index.natAbs ≤ items.length then (items, items.length - index.natAbs)
  else (missing (index.natAbs - items.length) ++ items, 0)

/-- Changes the value at a place. -/
def alter (change : Tree → Tree) : Place → Tree → Tree
  | [], tree => change tree
  | .entry name :: rest, tree => tree.alter name (alter change rest)
  | .item index :: rest, tree =>
    let (items, position) := reach index tree.items
    let origin := match tree with
      | .list origin _ => origin
      | _ => none
    .list origin (items.modify position (alter change rest))

end Place

/-! ### Layers -/

/-- Settings by key, as one source gives them. -/
abbrev Layer := List (String × Tree)

/-- Lays the settings of a layer over those of the layers before. -/
def Layer.layOver (layer : Layer) (below : Tree) : Tree :=
  layer.foldl (fun tree (key, value) => Place.alter value.layOver (Place.ofKey key) tree) below

/-- The settings of several layers, the last of which counts most. -/
def Layer.merge (layers : List Layer) : Tree :=
  layers.foldl (fun tree layer => layer.layOver tree) Tree.emptyTable

end ClusterCapacity.Settings
