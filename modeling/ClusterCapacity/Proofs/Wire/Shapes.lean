import ClusterCapacity.Proofs.TierMap.Sums
import ClusterCapacity.Proofs.Wire.Laws
import ClusterCapacity.Report.Document
import ClusterCapacity.Wire.Shape

/-!
# Shapes read what is written

In any format that holds JSON values the shape of a type reads the JSON value that is written for a
value of the type (`reads_shape`).  A tier map is the list of its entries, which no repeated name
merges, and every member of a record fills its place in the draft.
-/

namespace ClusterCapacity

open Wire
open Wire.LawfulFormat (Reads)

variable {R : Type → Type} [Format R] [LawfulFormat R]

theorem TierMap.reads_shape (tiers : TierMap) :
    Reads (TierMap.shape (R := R)) tiers tiers.toJson := by
  have hread := LawfulFormat.map TierMap.ofList (LawfulFormat.map_entries
    "a map from tier name to bytes" (LawfulFormat.int64 (R := R)) tiers.entries)
  rw [TierMap.ofList_entries] at hread
  exact hread

/-! ### Workers and snapshots -/

theorem Worker.reads_shape (worker : Worker) :
    Reads (Worker.shape (R := R)) worker worker.toJson := by
  apply LawfulFormat.record
  · apply Fills.member rfl rfl (LawfulFormat.map _ (LawfulFormat.text worker.host))
    apply Fills.member rfl rfl (LawfulFormat.map _ (LawfulFormat.int64 worker.heartbeat))
    apply Fills.member rfl rfl (LawfulFormat.map _ (LawfulFormat.int64 worker.capacity))
    apply Fills.member rfl rfl (LawfulFormat.map _ (LawfulFormat.int64 worker.used))
    apply Fills.member rfl rfl (LawfulFormat.map _ (TierMap.reads_shape worker.capacityTiers))
    apply Fills.member rfl rfl (LawfulFormat.map _ (TierMap.reads_shape worker.usedTiers))
    exact Fills.done _
  · rfl

theorem Worker.reads_listShape (workers : List Worker) :
    Reads (Worker.listShape (R := R)) workers (Worker.listToJson workers) :=
  LawfulFormat.map_list Worker.reads_shape workers

theorem Snapshot.reads_shape (snapshot : Snapshot) :
    Reads (Snapshot.shape (R := R)) snapshot snapshot.toJson := by
  apply LawfulFormat.record
  · apply Fills.member rfl rfl (LawfulFormat.map _ (Worker.reads_listShape snapshot.live))
    apply Fills.member rfl rfl (LawfulFormat.map _ (Worker.reads_listShape snapshot.lost))
    exact Fills.done _
  · rfl

/-! ### Reports -/

theorem Range.reads_shape (range : Range) : Reads (Range.shape (R := R)) range range.toJson := by
  apply LawfulFormat.choice
  cases range <;> rfl

theorem Totals.reads_shape (totals : Totals) :
    Reads (Totals.shape (R := R)) totals totals.toJson := by
  apply LawfulFormat.record
  · apply Fills.member rfl rfl (LawfulFormat.map _ (LawfulFormat.int64 totals.capacity))
    apply Fills.member rfl rfl (LawfulFormat.map _ (LawfulFormat.int64 totals.used))
    apply Fills.member rfl rfl (LawfulFormat.map _ (TierMap.reads_shape totals.capacityTiers))
    apply Fills.member rfl rfl (LawfulFormat.map _ (TierMap.reads_shape totals.usedTiers))
    exact Fills.done _
  · rfl

theorem reads_optional (value : Option Int64) :
    Reads (Format.optional (Format.int64 (R := R))) value (Json.optional value) := by
  cases value with
  | none => exact LawfulFormat.none _
  | some value => exact LawfulFormat.some_int64 value

theorem Row.reads_shape (row : Row) : Reads (Row.shape (R := R)) row row.toJson := by
  apply LawfulFormat.record
  · apply Fills.member rfl rfl (LawfulFormat.map _ (LawfulFormat.text row.host))
    apply Fills.member rfl rfl (LawfulFormat.map _ (LawfulFormat.int64 row.heartbeat))
    apply Fills.member rfl rfl (LawfulFormat.map _ (LawfulFormat.int64 row.capacity))
    apply Fills.member rfl rfl (LawfulFormat.map _ (LawfulFormat.int64 row.used))
    apply Fills.member rfl rfl
      (LawfulFormat.map _ (LawfulFormat.map_list LawfulFormat.int64 row.capacityOnTiers))
    apply Fills.member rfl rfl
      (LawfulFormat.map _ (LawfulFormat.map_list LawfulFormat.int64 row.usedOnTiers))
    apply Fills.member rfl rfl (LawfulFormat.map _ (reads_optional row.usedPercentage))
    exact Fills.done _
  · rfl

theorem Report.reads_shape (report : Report) :
    Reads (Report.shape (R := R)) report report.toJson := by
  apply LawfulFormat.record
  · apply Fills.member rfl rfl (LawfulFormat.map _ (Range.reads_shape report.range))
    apply Fills.member rfl rfl
      (LawfulFormat.map _ (LawfulFormat.map_list LawfulFormat.text report.displayTiers))
    apply Fills.member rfl rfl
      (LawfulFormat.map _ (LawfulFormat.map_list Row.reads_shape report.rows))
    apply Fills.member rfl rfl (LawfulFormat.map _ (Totals.reads_shape report.totals))
    exact Fills.done _
  · rfl

end ClusterCapacity
