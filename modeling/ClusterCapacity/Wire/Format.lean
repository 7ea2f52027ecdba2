/-!
# Document formats

What a document format has to offer so that the types of the wire format can be described once and
read from any of them: numbers, texts, lists, maps, choices by name and records.  `R α` is a way of
reading an `α`.
-/

namespace ClusterCapacity.Wire

/-- One member of a record.  The members that have been read so far are kept in a draft `σ`. -/
structure Field (R : Type → Type) (σ : Type) where
  name : String
  otherNames : List String := []
  /-- Whether the member may be left out where members are told by their place. -/
  mayBeAbsent : Bool := false
  isGiven : σ → Bool
  read : R (σ → σ)

/-- The member that `get` looks up in a draft and `set` puts there. -/
def Field.of {R : Type → Type} [Functor R] {σ β : Type} (name : String) (get : σ → Option β)
    (set : β → σ → σ) (read : R β) : Field R σ where
  name := name
  isGiven := fun draft => (get draft).isSome
  read := set <$> read

/-- Whether the member goes by a name. -/
def Field.isNamed {R : Type → Type} {σ : Type} (name : String) (field : Field R σ) : Bool :=
  field.name = name || field.otherNames.contains name

/-- A record of named members. -/
structure Record (R : Type → Type) (σ α : Type) where
  /-- What the record is called in messages. -/
  title : String
  fields : List (Field R σ)
  /-- The draft without any member. -/
  blank : σ
  /-- The record of a draft, or the name of the first member that it lacks. -/
  finish : σ → Except String α

namespace Record

variable {R : Type → Type} {σ α : Type}

/-- The member of the given name. -/
def field? (record : Record R σ α) (name : String) : Option (Field R σ) :=
  record.fields.find? (Field.isNamed name)

/-- How the record is called where its members are told by their place. -/
def listTitle (record : Record R σ α) : String :=
  record.title ++ " with " ++ toString record.fields.length ++ " elements"

end Record

/-- A member that has to be in a draft. -/
def required {α : Type} (name : String) : Option α → Except String α
  | some value => .ok value
  | none => .error name

/-- The ways of reading that a format offers. -/
class Format (R : Type → Type) extends Functor R where
  int64 : R Int64
  text : R String
  /-- A value or the mark for none. -/
  optional {α : Type} : R α → R (Option α)
  list {α : Type} : R α → R (List α)
  /-- The pairs of a map, in order; the text says what is expected. -/
  entries {α : Type} : String → R α → R (List (String × α))
  /-- One of the named values. -/
  choice {α : Type} : List (String × α) → R α
  record {σ α : Type} : Record R σ α → R α

end ClusterCapacity.Wire
