import ClusterCapacity.Json.Printer
import ClusterCapacity.Report.Basic
import ClusterCapacity.Worker

/-!
# Workers and reports as JSON

Every type of the wire format as a JSON value with its members in declared order, and the summary
that is exported: its members are sorted by name and it carries the percentages of the whole.
-/

namespace ClusterCapacity

/-- A 64-bit number as JSON. -/
def Json.int64 (value : Int64) : Json := .int value.toInt

/-- A number that may be missing as JSON. -/
def Json.optional (value : Option Int64) : Json :=
  match value with
  | some value => .int64 value
  | none => .null

/-- The tiers as an object, in their own order. -/
def TierMap.toJson (tiers : TierMap) : Json :=
  .obj (tiers.entries.map (fun entry => (entry.1, .int64 entry.2)))

/-- A worker as an object. -/
def Worker.toJson (worker : Worker) : Json := .obj [
  ("hostName", .str worker.host),
  ("lastContactSec", .int64 worker.heartbeat),
  ("capacityBytes", .int64 worker.capacity),
  ("usedBytes", .int64 worker.used),
  ("capacityBytesOnTiers", worker.capacityTiers.toJson),
  ("usedBytesOnTiers", worker.usedTiers.toJson)]

/-- A list of workers as an array. -/
def Worker.listToJson (workers : List Worker) : Json := .arr (workers.map Worker.toJson)

/-- A snapshot as an object. -/
def Snapshot.toJson (snapshot : Snapshot) : Json := .obj [
  ("live", Worker.listToJson snapshot.live),
  ("lost", Worker.listToJson snapshot.lost)]

/-- A range by its name. -/
def Range.toJson (range : Range) : Json := .str range.name

/-- A fact by its name. -/
def WorkerFact.toJson (fact : WorkerFact) : Json := .str fact.name

/-- Totals as an object. -/
def Totals.toJson (totals : Totals) : Json := .obj [
  ("capacityBytes", .int64 totals.capacity),
  ("usedBytes", .int64 totals.used),
  ("capacityBytesOnTiers", totals.capacityTiers.toJson),
  ("usedBytesOnTiers", totals.usedTiers.toJson)]

/-- A row as an object. -/
def Row.toJson (row : Row) : Json := .obj [
  ("hostName", .str row.host),
  ("lastHeartbeatSecs", .int64 row.heartbeat),
  ("capacityBytes", .int64 row.capacity),
  ("usedBytes", .int64 row.used),
  ("capacityOnDisplayTiers", .arr (row.capacityOnTiers.map .int64)),
  ("usedOnDisplayTiers", .arr (row.usedOnTiers.map .int64)),
  ("usedPercentage", .optional row.usedPercentage)]

namespace Report

/-- A report as an object. -/
def toJson (report : Report) : Json := .obj [
  ("range", report.range.toJson),
  ("displayTiers", .arr (report.displayTiers.map .str)),
  ("rows", .arr (report.rows.map Row.toJson)),
  ("totals", report.totals.toJson)]

/-- The members of the exported summary. -/
def summaryMembers (report : Report) : List (String × Json) := [
  ("range", report.range.toJson),
  ("displayTiers", .arr (report.displayTiers.map .str)),
  ("workers", .arr (report.rows.map Row.toJson)),
  ("totals", .obj [
    ("capacityBytes", .int64 report.totals.capacity),
    ("usedBytes", .int64 report.totals.used),
    ("capacityBytesOnTiers", report.totals.capacityTiers.toJson),
    ("usedBytesOnTiers", report.totals.usedTiers.toJson),
    ("usedPercentage", .optional report.totals.usedPercentage),
    ("freePercentage", .optional report.totals.freePercentage)])]

/-- The summary of a report, all members sorted by name. -/
def summary (report : Report) : Json := (Json.obj report.summaryMembers).sorted

/-- The summary with the time of its export. -/
def exported (report : Report) (time : String) : Json :=
  (Json.obj (report.summaryMembers ++ [("generatedAt", .str time)])).sorted

/-- The exported document. -/
def exportText (report : Report) (time : String) : String := (report.exported time).pretty

end Report

end ClusterCapacity
