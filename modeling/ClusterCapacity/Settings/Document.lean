import ClusterCapacity.Settings.Place
import ClusterCapacity.Yaml.Node
import ClusterCapacity.Yaml.Scalar

/-!
# Settings files

A settings file is a YAML document with a mapping at its root, or without any content.  A plain
scalar is a number, a truth value or nothing if it looks like one; every other scalar is a text.
-/

namespace ClusterCapacity.Settings

open Decimal Yaml

/-- Why a file does not give settings. -/
inductive FileFault where
  | yaml (fault : Yaml.Fault)
  | repeatedKey (key : String)
  /-- A key is empty or no scalar. -/
  | unusableKey
  /-- A number that cannot be computed with. -/
  | unusableNumber (text : String)
  | notTable (found : String) (origin : String)
deriving DecidableEq, Repr

/-- What the user is told. -/
def FileFault.message : FileFault → String
  | yaml fault => fault.message
  | repeatedKey key => Text.quoted key ++ ": duplicated key in mapping"
  | unusableKey => "unsupported key in mapping"
  | unusableNumber text => text ++ " is no number"
  | notTable found origin => "invalid type: " ++ found ++ ", expected a map in " ++ origin

namespace Scalar

/-- The digits of an integer in a base. -/
def digits? (base : Nat) (digits : List Char) : Option Nat :=
  if digits.isEmpty then none
  else
    digits.foldlM (fun value c =>
      match hexDigit? c with
      | some digit => if digit < base then some (base * value + digit) else none
      | none => none) 0

/-- An integer with an optional sign, within 64 bits. -/
def signed? (base : Nat) (text : List Char) : Option Int :=
  let value : Option Int := match text with
    | '-' :: digits => (digits? base digits).map (fun value => -(value : Int))
    | '+' :: digits => (digits? base digits).map Int.ofNat
    | digits => (digits? base digits).map Int.ofNat
  value.filter Decimal.fitsInt64

/-- The integer that a plain scalar denotes, if it denotes one. -/
def integer? : List Char → Option Int
  | '0' :: 'x' :: digits => signed? 16 digits
  | '0' :: 'o' :: digits => signed? 8 digits
  | '+' :: digits => (signed? 10 digits).orElse (fun _ => signed? 10 ('+' :: digits))
  | text => signed? 10 text

/-- Whether a plain scalar names infinity or no number at all. -/
def isNamedNumber (text : String) : Bool :=
  [".inf", ".Inf", ".INF", "+.inf", "+.Inf", "+.INF", "-.inf", "-.Inf", "-.INF", ".nan", ".NaN",
    ".NAN"].contains text

/-- Whether a plain scalar is nothing. -/
def isNull (text : String) : Bool := text = "" || text = "~" || text = "null"

/-- The number or named number of a scalar, if it is one. -/
def floating? (text : String) : Except FileFault (Option Tree) :=
  if isNamedNumber text then .error (.unusableNumber text)
  else .ok ((Floating.ofText? text.toList).map .floating)

/-- The value of a plain scalar without a tag. -/
def plain (origin : String) (text : String) : Except FileFault Tree :=
  match integer? text.toList with
  | some value => .ok (.integer value)
  | none =>
    if isNull text then .ok (.null (some origin))
    else if text = "true" then .ok (.bool true)
    else if text = "false" then .ok (.bool false)
    else do return (← floating? text).getD (.text text)

/-- The value of a plain scalar with a tag; one that does not fit its tag is nothing. -/
def tagged (origin tag text : String) : Except FileFault Tree :=
  let nothing : Tree := .null (some origin)
  if tag = "tag:yaml.org,2002:bool" then
    .ok (if text = "true" then .bool true else if text = "false" then .bool false else nothing)
  else if tag = "tag:yaml.org,2002:int" then
    .ok ((signed? 10 text.toList).elim nothing .integer)
  else if tag = "tag:yaml.org,2002:float" then do return (← floating? text).getD nothing
  else if tag = "tag:yaml.org,2002:null" then .ok nothing
  else .ok (.text text)

/-- The value of a scalar. -/
def value (origin : String) (style : Style) (tag : Option String) (text : String) :
    Except FileFault Tree :=
  match style, tag with
  | .plain, none => plain origin text
  | .plain, some tag => tagged origin tag text
  | _, _ => .ok (.text text)

end Scalar

/-- The name that a key stands for. -/
def keyText? (key : Tree) : Except FileFault String :=
  match key.scalarText? with
  | some name => .ok name
  | none => .error .unusableKey

namespace Tree

mutual

/-- The settings at a node; aliases are followed up to `fuel` levels deep. -/
def ofNode (origin : String) (document : Document) : Nat → Node → Except FileFault Tree
  | _, .void => .ok (.null (some origin))
  | 0, .alias _ => .ok (.null (some origin))
  | fuel + 1, .alias slot =>
    match document.node? slot with
    | some node => ofNode origin document fuel node
    | none => .ok (.null (some origin))
  | _, .scalar style tag content => Scalar.value origin style tag content
  | fuel, .sequence _ items => do return .list (some origin) (← ofItems origin document fuel items)
  | fuel, .mapping _ pairs => do
    return .table (some origin) (← ofPairs origin document fuel pairs)

/-- The settings at the items of a sequence. -/
def ofItems (origin : String) (document : Document) : Nat → List Node → Except FileFault (List Tree)
  | _, [] => .ok []
  | fuel, item :: rest => do
    return (← ofNode origin document fuel item) :: (← ofItems origin document fuel rest)

/-- The settings at the pairs of a mapping, whose keys are all different. -/
def ofPairs (origin : String) (document : Document) :
    Nat → List (Node × Node) → Except FileFault (List (String × Tree))
  | _, [] => .ok []
  | fuel, (key, value) :: rest => do
    let name ← keyText? (← ofNode origin document fuel key)
    let value ← ofNode origin document fuel value
    let entries ← ofPairs origin document fuel rest
    if (entries.map Prod.fst).contains name then throw (.repeatedKey name)
    return (name, value) :: entries

end

end Tree

/-! ### Whole files -/

/-- How deep aliases are followed. -/
def aliasDepth : Nat := 64

/-- The settings in the text of a file. -/
def Layer.ofText (origin : String) (text : String) : Except FileFault Layer :=
  match Document.ofText text with
  | .error fault => .error (.yaml fault)
  | .ok document =>
    match document.root with
    | .void => .ok []
    | root => do
      match ← Tree.ofNode origin document aliasDepth root with
      | .table _ entries => return entries
      | other => throw (.notTable other.describe origin)

end ClusterCapacity.Settings
