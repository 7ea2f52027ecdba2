import ClusterCapacity.Decimal.Bounds
import ClusterCapacity.Decimal.Numeral
import ClusterCapacity.Text.Quoted

/-!
# Trees of settings

What a settings file or another layer says: scalars, lists and tables by name.  Values that cannot
be shown as a text keep the file they come from, for messages about them.
-/

namespace ClusterCapacity.Settings

open Decimal

/-- A value among settings. -/
inductive Tree where
  | null (origin : Option String)
  | bool (value : Bool)
  | integer (value : Int)
  | floating (value : Floating)
  | text (value : String)
  | list (origin : Option String) (items : List Tree)
  | table (origin : Option String) (entries : List (String × Tree))
deriving Inhabited

namespace Tree

/-- The table without entries. -/
def emptyTable : Tree := .table none []

/-- The name of a truth value. -/
def boolText (value : Bool) : String := if value then "true" else "false"

/-- How a value is named in messages. -/
def describe : Tree → String
  | null _ => "unit value"
  | bool value => "boolean `" ++ boolText value ++ "`"
  | integer value => "integer `" ++ toString value ++ "`"
  | floating value => "floating point `" ++ value.positionalText ++ "`"
  | text value => "string " ++ Text.quoted value
  | list _ _ => "sequence"
  | table _ _ => "map"

/-- The text of a scalar. -/
def scalarText? : Tree → Option String
  | bool value => some (boolText value)
  | integer value => some (toString value)
  | floating value => some value.plainText
  | text value => some value
  | _ => none

/-- The file that a value comes from, if it was kept. -/
def origin? : Tree → Option String
  | null origin => origin
  | list origin _ => origin
  | table origin _ => origin
  | _ => none

/-- The entries of a table; anything else has none. -/
def entries : Tree → List (String × Tree)
  | table _ entries => entries
  | _ => []

/-- The items of a list; anything else has none. -/
def items : Tree → List Tree
  | list _ items => items
  | _ => []

/-! ### Tables -/

/-- Changes the entry of the given name, which is empty if it is not there. -/
def alterEntry (name : String) (change : Tree → Tree) :
    List (String × Tree) → List (String × Tree)
  | [] => [(name, change (.null none))]
  | (other, value) :: rest =>
    if other = name then (name, change value) :: rest
    else (other, value) :: alterEntry name change rest

/-- Changes an entry of a table; anything but a table is replaced by one. -/
def alter (name : String) (change : Tree → Tree) : Tree → Tree
  | table origin entries => .table origin (alterEntry name change entries)
  | _ => .table none (alterEntry name change [])

/-- The table itself, or an empty one in place of anything else. -/
def asTable : Tree → Tree
  | table origin entries => .table origin entries
  | _ => emptyTable

mutual

/-- Lays a value over another: a table entry by entry, anything else in place of what is there. -/
def layOver : Tree → Tree → Tree
  | table _ entries, below => layEntriesOver entries below.asTable
  | value, _ => value

/-- Lays the entries of a table over a table. -/
def layEntriesOver : List (String × Tree) → Tree → Tree
  | [], below => below
  | (name, value) :: rest, below => layEntriesOver rest (below.alter name (layOver value))

end

end Tree

end ClusterCapacity.Settings
