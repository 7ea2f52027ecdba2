import ClusterCapacity.Report.Basic
import ClusterCapacity.Wire.Format
import ClusterCapacity.Worker

/-!
# The shapes of documents

How each type of the wire format is read, in any document format.  The heartbeat of a worker has two
names, its tier maps may be left out, and so may the lists of a snapshot and the used percentage of
a row that is given by names.
-/

namespace ClusterCapacity

open Wire

variable {R : Type → Type} [Format R]

/-- Tiers are a map from names to counts; counts of one name are added up. -/
def TierMap.shape : R TierMap :=
  TierMap.ofList <$> Format.entries "a map from tier name to bytes" Format.int64

/-- A range goes by its name. -/
def Range.shape : R Range :=
  Format.choice (Range.every.map (fun range => (range.name, range)))

/-- A fact goes by its name. -/
def WorkerFact.shape : R WorkerFact :=
  Format.choice (WorkerFact.every.map (fun fact => (fact.name, fact)))

/-! ### Workers -/

/-- The members of a worker as far as they are known. -/
structure Worker.Draft where
  host : Option String := none
  heartbeat : Option Int64 := none
  capacity : Option Int64 := none
  used : Option Int64 := none
  capacityTiers : Option TierMap := none
  usedTiers : Option TierMap := none

/-- The worker of a draft. -/
def Worker.Draft.finish (draft : Draft) : Except String Worker := do
  return {
    host := ← required "hostName" draft.host
    heartbeat := ← required "lastContactSec" draft.heartbeat
    capacity := ← required "capacityBytes" draft.capacity
    used := ← required "usedBytes" draft.used
    capacityTiers := draft.capacityTiers.getD ∅
    usedTiers := draft.usedTiers.getD ∅ }

/-- A worker is a record of six members. -/
def Worker.shape : R Worker := Format.record {
  title := "struct WorkerRecord"
  fields := [
    .of "hostName" Draft.host (fun x draft => { draft with host := some x }) Format.text,
    { Field.of "lastContactSec" Draft.heartbeat
        (fun x draft => { draft with heartbeat := some x }) Format.int64 with
      otherNames := ["lastHeartbeatSeconds"] },
    .of "capacityBytes" Draft.capacity
      (fun x draft => { draft with capacity := some x }) Format.int64,
    .of "usedBytes" Draft.used (fun x draft => { draft with used := some x }) Format.int64,
    { Field.of "capacityBytesOnTiers" Draft.capacityTiers
        (fun x draft => { draft with capacityTiers := some x }) TierMap.shape with
      mayBeAbsent := true },
    { Field.of "usedBytesOnTiers" Draft.usedTiers
        (fun x draft => { draft with usedTiers := some x }) TierMap.shape with
      mayBeAbsent := true }]
  blank := {}
  finish := Draft.finish }

/-- A list of workers. -/
def Worker.listShape : R (List Worker) := Format.list Worker.shape

/-! ### Snapshots -/

/-- The members of a snapshot as far as they are known. -/
structure Snapshot.Draft where
  live : Option (List Worker) := none
  lost : Option (List Worker) := none

/-- The snapshot of a draft. -/
def Snapshot.Draft.finish (draft : Draft) : Except String Snapshot :=
  .ok { live := draft.live.getD [], lost := draft.lost.getD [] }

/-- A snapshot is a record of two members. -/
def Snapshot.shape : R Snapshot := Format.record {
  title := "struct ClusterSnapshot"
  fields := [
    { Field.of "live" Draft.live
        (fun x draft => { draft with live := some x }) Worker.listShape with
      mayBeAbsent := true },
    { Field.of "lost" Draft.lost
        (fun x draft => { draft with lost := some x }) Worker.listShape with
      mayBeAbsent := true }]
  blank := {}
  finish := Draft.finish }

/-! ### Reports -/

/-- The members of totals as far as they are known. -/
structure Totals.Draft where
  capacity : Option Int64 := none
  used : Option Int64 := none
  capacityTiers : Option TierMap := none
  usedTiers : Option TierMap := none

/-- The totals of a draft. -/
def Totals.Draft.finish (draft : Draft) : Except String Totals := do
  return {
    capacity := ← required "capacityBytes" draft.capacity
    used := ← required "usedBytes" draft.used
    capacityTiers := ← required "capacityBytesOnTiers" draft.capacityTiers
    usedTiers := ← required "usedBytesOnTiers" draft.usedTiers }

/-- Totals are a record of four members. -/
def Totals.shape : R Totals := Format.record {
  title := "struct CapacityTotals"
  fields := [
    .of "capacityBytes" Draft.capacity
      (fun x draft => { draft with capacity := some x }) Format.int64,
    .of "usedBytes" Draft.used (fun x draft => { draft with used := some x }) Format.int64,
    .of "capacityBytesOnTiers" Draft.capacityTiers
      (fun x draft => { draft with capacityTiers := some x }) TierMap.shape,
    .of "usedBytesOnTiers" Draft.usedTiers
      (fun x draft => { draft with usedTiers := some x }) TierMap.shape]
  blank := {}
  finish := Draft.finish }

/-- The members of a row as far as they are known. -/
structure Row.Draft where
  host : Option String := none
  heartbeat : Option Int64 := none
  capacity : Option Int64 := none
  used : Option Int64 := none
  capacityOnTiers : Option (List Int64) := none
  usedOnTiers : Option (List Int64) := none
  usedPercentage : Option (Option Int64) := none

/-- The row of a draft. -/
def Row.Draft.finish (draft : Draft) : Except String Row := do
  return {
    host := ← required "hostName" draft.host
    heartbeat := ← required "lastHeartbeatSecs" draft.heartbeat
    capacity := ← required "capacityBytes" draft.capacity
    used := ← required "usedBytes" draft.used
    capacityOnTiers := ← required "capacityOnDisplayTiers" draft.capacityOnTiers
    usedOnTiers := ← required "usedOnDisplayTiers" draft.usedOnTiers
    usedPercentage := draft.usedPercentage.getD none }

/-- A row is a record of seven members. -/
def Row.shape : R Row := Format.record {
  title := "struct ReportRow"
  fields := [
    .of "hostName" Draft.host (fun x draft => { draft with host := some x }) Format.text,
    .of "lastHeartbeatSecs" Draft.heartbeat
      (fun x draft => { draft with heartbeat := some x }) Format.int64,
    .of "capacityBytes" Draft.capacity
      (fun x draft => { draft with capacity := some x }) Format.int64,
    .of "usedBytes" Draft.used (fun x draft => { draft with used := some x }) Format.int64,
    .of "capacityOnDisplayTiers" Draft.capacityOnTiers
      (fun x draft => { draft with capacityOnTiers := some x }) (Format.list Format.int64),
    .of "usedOnDisplayTiers" Draft.usedOnTiers
      (fun x draft => { draft with usedOnTiers := some x }) (Format.list Format.int64),
    .of "usedPercentage" Draft.usedPercentage
      (fun x draft => { draft with usedPercentage := some x }) (Format.optional Format.int64)]
  blank := {}
  finish := Draft.finish }

/-- The members of a report as far as they are known. -/
structure Report.Draft where
  range : Option Range := none
  displayTiers : Option (List String) := none
  rows : Option (List Row) := none
  totals : Option Totals := none

/-- The report of a draft. -/
def Report.Draft.finish (draft : Draft) : Except String Report := do
  return {
    range := ← required "range" draft.range
    displayTiers := ← required "displayTiers" draft.displayTiers
    rows := ← required "rows" draft.rows
    totals := ← required "totals" draft.totals }

/-- A report is a record of four members. -/
def Report.shape : R Report := Format.record {
  title := "struct CapacityReport"
  fields := [
    .of "range" Draft.range (fun x draft => { draft with range := some x }) Range.shape,
    .of "displayTiers" Draft.displayTiers
      (fun x draft => { draft with displayTiers := some x }) (Format.list Format.text),
    .of "rows" Draft.rows
      (fun x draft => { draft with rows := some x }) (Format.list Row.shape),
    .of "totals" Draft.totals (fun x draft => { draft with totals := some x }) Totals.shape]
  blank := {}
  finish := Draft.finish }

end ClusterCapacity
