import ClusterCapacity.Json.Basic
import ClusterCapacity.Wire.Format
import Mathlib.Data.List.Forall2

/-!
# Formats that hold JSON values

A format of which the ways of reading agree with JSON values (`LawfulFormat`): a relation says which
JSON value a way of reading takes as which value, and each way of reading that the format offers is
related as its name says.  For records the members are collected in `Fills`: one by one they turn
the blank draft into the draft that the record is finished from.
-/

namespace ClusterCapacity.Wire

/-- Whether members in their order turn one draft of a record into another. -/
inductive Fills {R : Type → Type} (Reads : ∀ ⦃α : Type⦄, R α → α → Json → Prop) {σ α : Type}
    (record : Record R σ α) : σ → List (String × Json) → σ → Prop where
  | done (draft : σ) : Fills Reads record draft [] draft
  | member {draft final : σ} {name : String} {value : Json} {members : List (String × Json)}
    {field : Field R σ} {update : σ → σ} (hfield : record.field? name = some field)
    (hnew : field.isGiven draft = false) (hread : Reads field.read update value)
    (hrest : Fills Reads record (update draft) members final) :
    Fills Reads record draft ((name, value) :: members) final

/-- Whether a pair has the name of a member and its value is read from that of the member. -/
def ReadsMember {α : Type} (Reads : α → Json → Prop) (pair : String × α)
    (member : String × Json) : Prop :=
  pair.1 = member.1 ∧ Reads pair.2 member.2

/-- The laws of a format that holds JSON values. -/
class LawfulFormat (R : Type → Type) [Format R] where
  /-- Whether `read` gives the value where the JSON value is written. -/
  Reads {α : Type} (read : R α) (value : α) (json : Json) : Prop
  map {α β : Type} {read : R α} {value : α} {json : Json} (f : α → β)
    (h : Reads read value json) : Reads (f <$> read) (f value) json
  int64 (value : Int64) : Reads Format.int64 value (.int value.toInt)
  text (text : String) : Reads Format.text text (.str text)
  none {α : Type} (read : R α) : Reads (Format.optional read) none .null
  some_int64 (value : Int64) :
    Reads (Format.optional Format.int64) (some value) (.int value.toInt)
  list {α : Type} {read : R α} {values : List α} {written : List Json}
    (h : List.Forall₂ (Reads read) values written) :
    Reads (Format.list read) values (.arr written)
  entries {α : Type} (expected : String) {read : R α} {pairs : List (String × α)}
    {written : List (String × Json)} (h : List.Forall₂ (ReadsMember (Reads read)) pairs written) :
    Reads (Format.entries expected read) pairs (.obj written)
  choice {α : Type} {choices : List (String × α)} {name : String} {value : α}
    (h : choices.lookup name = some value) : Reads (Format.choice choices) value (.str name)
  record {σ α : Type} {record : Record R σ α} {final : σ} {members : List (String × Json)}
    {value : α} (h : Fills @Reads record record.blank members final)
    (hfinish : record.finish final = .ok value) : Reads (Format.record record) value (.obj members)

namespace LawfulFormat

variable {R : Type → Type} [Format R] [LawfulFormat R] {α : Type} {read : R α} {write : α → Json}

/-- A list is read if each of its items is. -/
theorem map_list (h : ∀ value, Reads read value (write value)) (values : List α) :
    Reads (Format.list read) values (.arr (values.map write)) := by
  apply LawfulFormat.list
  rw [List.forall₂_map_right_iff, List.forall₂_same]
  exact fun value _ => h value

/-- A map is read if each of its values is. -/
theorem map_entries (expected : String) (h : ∀ value, Reads read value (write value))
    (pairs : List (String × α)) : Reads (Format.entries expected read) pairs
      (.obj (pairs.map (fun pair => (pair.1, write pair.2)))) := by
  apply LawfulFormat.entries
  rw [List.forall₂_map_right_iff, List.forall₂_same]
  exact fun pair _ => ⟨rfl, h pair.2⟩

end LawfulFormat

end ClusterCapacity.Wire
