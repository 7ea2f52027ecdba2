import ClusterCapacity.Proofs.Json.Reader
import ClusterCapacity.Proofs.Wire.Shapes
import Mathlib.Logic.Function.Basic

/-!
# Documents read back

The compact text of a value of the wire format decodes to the value (`wire_roundTrip`), because the
shape of each type reads the JSON value that is written for it, and JSON is a format that holds JSON
values.
-/

namespace ClusterCapacity

open Json

theorem TierMap.inverts_shape : Inverts TierMap.shape TierMap.toJson :=
  TierMap.reads_shape (R := Reader)

theorem Worker.inverts_shape : Inverts Worker.shape Worker.toJson :=
  Worker.reads_shape (R := Reader)

theorem Worker.inverts_listShape : Inverts Worker.listShape Worker.listToJson :=
  Worker.reads_listShape (R := Reader)

theorem Snapshot.inverts_shape : Inverts Snapshot.shape Snapshot.toJson :=
  Snapshot.reads_shape (R := Reader)

theorem Range.inverts_shape : Inverts Range.shape Range.toJson :=
  Range.reads_shape (R := Reader)

theorem Totals.inverts_shape : Inverts Totals.shape Totals.toJson :=
  Totals.reads_shape (R := Reader)

theorem inverts_optional : Inverts (Reader.optional Reader.int64) Json.optional :=
  reads_optional (R := Reader)

theorem Row.inverts_shape : Inverts Row.shape Row.toJson :=
  Row.reads_shape (R := Reader)

theorem Report.inverts_shape : Inverts Report.shape Report.toJson :=
  Report.reads_shape (R := Reader)

/-! ### Whole documents -/

/-- Reading undoes writing for every value of a type, so values of one text are equal. -/
structure Json.RoundTrip {α : Type} (read : Reader α) (write : α → Json) : Prop where
  decode_eq (value : α) : Json.decode read (write value).compact = .ok value
  injective : Function.Injective (fun value => (write value).compact)

theorem Json.Inverts.roundTrip {α : Type} {read : Reader α} {write : α → Json}
    (h : Inverts read write) : RoundTrip read write := by
  have hdecode (value : α) : Json.decode read (write value).compact = .ok value :=
    decode_compact (h value)
  refine ⟨hdecode, ?_⟩
  intro value other heq
  have hsame : Json.decode read (write value).compact = Json.decode read (write other).compact :=
    congrArg (Json.decode read) heq
  rw [hdecode, hdecode] at hsame
  exact Except.ok.inj hsame

/-- Every type of the wire format is decoded from its compact text as it was written: members,
numbers, texts and the order of the tiers. -/
theorem wire_roundTrip :
    RoundTrip TierMap.shape TierMap.toJson ∧
    RoundTrip Worker.shape Worker.toJson ∧
    RoundTrip Worker.listShape Worker.listToJson ∧
    RoundTrip Snapshot.shape Snapshot.toJson ∧
    RoundTrip Totals.shape Totals.toJson ∧
    RoundTrip Row.shape Row.toJson ∧
    RoundTrip Report.shape Report.toJson :=
  ⟨TierMap.inverts_shape.roundTrip, Worker.inverts_shape.roundTrip,
    Worker.inverts_listShape.roundTrip, Snapshot.inverts_shape.roundTrip,
    Totals.inverts_shape.roundTrip, Row.inverts_shape.roundTrip, Report.inverts_shape.roundTrip⟩

end ClusterCapacity
