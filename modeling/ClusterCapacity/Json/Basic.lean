/-!
# JSON values

The values that reports are written as: numbers are integers, and an object lists its members in
order.  `sorted` orders the members of every object by name.
-/

namespace ClusterCapacity

/-- A JSON value with integer numbers and ordered members. -/
inductive Json where
  | null
  | bool (value : Bool)
  | int (value : Int)
  | str (text : String)
  | arr (items : List Json)
  | obj (members : List (String × Json))
deriving Inhabited

namespace Json

/-- Puts a member before the first one of a greater name; a member of the same name is replaced. -/
def insertMember (name : String) (value : Json) : List (String × Json) → List (String × Json)
  | [] => [(name, value)]
  | (first, other) :: rest =>
    if name < first then (name, value) :: (first, other) :: rest
    else if name = first then (name, value) :: rest
    else (first, other) :: insertMember name value rest

mutual

/-- The same value with the members of every object in ascending order of their names. -/
def sorted : Json → Json
  | null => null
  | bool value => bool value
  | int value => int value
  | str text => str text
  | arr items => arr (sortedItems items)
  | obj members => obj (sortedMembers members [])

/-- Sorts within each item. -/
def sortedItems : List Json → List Json
  | [] => []
  | item :: rest => item.sorted :: sortedItems rest

/-- Inserts the members, sorted within, into the members that are already in order. -/
def sortedMembers : List (String × Json) → List (String × Json) → List (String × Json)
  | [], done => done
  | (name, value) :: rest, done => sortedMembers rest (insertMember name value.sorted done)

end

end Json

end ClusterCapacity
