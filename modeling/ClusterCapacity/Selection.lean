import ClusterCapacity.Text.Blank

/-!
# Choosing workers

At most one filter selects the workers of a report: the live ones, the lost ones, or those with
given addresses.  A `Selector` is the resolved choice and a `Query` is what a source of workers is
asked for.
-/

namespace ClusterCapacity

/-- The workers that a report covers. -/
inductive Range where
  | all | live | lost | specified
deriving DecidableEq, Repr, Inhabited

namespace Range

/-- The name in reports and documents. -/
def name : Range → String
  | all => "all"
  | live => "live"
  | lost => "lost"
  | specified => "specified"

/-- The name in a master's query. -/
def queryName : Range → String
  | all => "ALL"
  | live => "LIVE"
  | lost => "LOST"
  | specified => "SPECIFIED"

/-- Every range, in the order in which they are named to the user. -/
def every : List Range := [all, live, lost, specified]

end Range

/-- A fact about a worker that a source has to deliver. -/
inductive WorkerFact where
  | address | capacityBytes | capacityBytesOnTiers | lastContactSec | usedBytes | usedBytesOnTiers
deriving DecidableEq, Repr

namespace WorkerFact

/-- The name in a master's query and in documents. -/
def name : WorkerFact → String
  | address => "ADDRESS"
  | capacityBytes => "CAPACITY_BYTES"
  | capacityBytesOnTiers => "CAPACITY_BYTES_ON_TIERS"
  | lastContactSec => "LAST_CONTACT_SEC"
  | usedBytes => "USED_BYTES"
  | usedBytesOnTiers => "USED_BYTES_ON_TIERS"

/-- Every fact, in query order. -/
def every : List WorkerFact :=
  [address, capacityBytes, capacityBytesOnTiers, lastContactSec, usedBytes, usedBytesOnTiers]

end WorkerFact

/-! ### Address lists -/

namespace Addresses

/-- Puts `address` into an ascending list, unless it is there. -/
def insert (address : String) : List String → List String
  | [] => [address]
  | first :: rest =>
    if address < first then address :: first :: rest
    else if address = first then first :: rest
    else first :: insert address rest

/-- The ascending list of the given addresses, each once. -/
def ofList (addresses : List String) : List String := addresses.foldr insert []

/-- The non-empty pieces of `text` between commas, without white space around them. -/
def pieces (text : List Char) : List (List Char) :=
  ((text.splitOn ',').map Text.trim).filter (fun piece => !piece.isEmpty)

/-- The addresses named in a comma separated text, ascending and each once. -/
def parse (text : String) : List String :=
  ofList ((pieces text.toList).map String.ofList)

/-- The addresses joined by commas. -/
def joined (addresses : List String) : String := ",".intercalate addresses

end Addresses

/-! ### Filters and selectors -/

/-- One filter as the user gives it. -/
inductive Filter where
  | live
  | lost
  | workers (addresses : String)
deriving DecidableEq, Repr

/-- The resolved choice of workers. -/
inductive Selector where
  | all
  | live
  | lost
  | specified (addresses : List String)
deriving DecidableEq, Repr, Inhabited

/-- More than one filter was given. -/
inductive SelectionError where
  | tooManyFilters
deriving DecidableEq, Repr

/-- What the user is told. -/
def SelectionError.message : SelectionError → String
  | tooManyFilters => "Too many arguments passed in."

namespace Selector

/-- The choice that one filter makes. -/
def ofFilter : Filter → Selector
  | .live => live
  | .lost => lost
  | .workers addresses => specified (Addresses.parse addresses)

/-- Without a filter all workers are chosen; two filters exclude each other. -/
def resolve : List Filter → Except SelectionError Selector
  | [] => .ok all
  | [filter] => .ok (ofFilter filter)
  | _ :: _ :: _ => .error .tooManyFilters

/-- The range that the choice covers. -/
def range : Selector → Range
  | all => .all
  | live => .live
  | lost => .lost
  | specified _ => .specified

/-- The chosen addresses, if the choice is by address. -/
def addresses? : Selector → Option (List String)
  | specified addresses => some addresses
  | _ => none

end Selector

/-- What a source of workers is asked for. -/
structure Query where
  range : Range
  addresses : List String
  facts : List WorkerFact
deriving DecidableEq, Repr

/-- The query behind a capacity report of the chosen workers. -/
def Selector.query (selector : Selector) : Query where
  range := selector.range
  addresses := selector.addresses?.getD []
  facts := WorkerFact.every

end ClusterCapacity
