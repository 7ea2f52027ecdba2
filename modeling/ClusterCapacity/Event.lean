import ClusterCapacity.Report.Collect
import ClusterCapacity.Text.Quoted

/-!
# Log events

What a run reports about itself while it works: what it was told to do, where the workers come from,
what came of that, which of them use more than they have, and where the export went.
-/

namespace ClusterCapacity

/-- The weight of an event. -/
inductive Level where
  | debug | info | warn
deriving DecidableEq, Repr

/-- The name of a level. -/
def Level.name : Level → String
  | debug => "DEBUG"
  | info => "INFO"
  | warn => "WARN"

/-- A selector as it is shown in events. -/
def Selector.logText : Selector → String
  | all => "All"
  | live => "Live"
  | lost => "Lost"
  | specified addresses =>
    "Specified(\x7b" ++ ", ".intercalate (addresses.map Text.quoted) ++ "\x7d)"

/-- What happened. -/
inductive Event where
  | choseWorkers (selector : Selector)
  | loadedSettings (directory : String)
  | readingSnapshot (path : String)
  | askingMaster (url : String)
  | loadedSnapshot (live lost : Nat)
  | requestingWorkers (url : String)
  | receivedWorkers (count : Nat)
  | fetchedWorkers (count : Nat) (range : Range)
  | overuse (overuse : Overuse)
  | collectedWorkers (count tiers : Nat) (capacity used : Int64)
  | exported (path : String)
deriving DecidableEq, Repr

namespace Event

/-- The weight of the event. -/
def level : Event → Level
  | overuse _ => .warn
  | readingSnapshot _ | askingMaster _ | exported _ => .info
  | _ => .debug

/-- The part of the program that the event comes from. -/
def origin : Event → String
  | loadedSnapshot _ _ => "capacity_report_core::sources::file_source"
  | requestingWorkers _ | receivedWorkers _ => "capacity_report_core::sources::http_source"
  | fetchedWorkers _ _ => "capacity_report_core::collectors::orchestrator"
  | overuse _ | collectedWorkers _ _ _ _ => "capacity_report_core::collectors::collector"
  | _ => "capacity_report::app"

/-- The event in words. -/
def message : Event → String
  | choseWorkers _ => "Resolved worker selector"
  | loadedSettings _ => "Loaded configuration"
  | readingSnapshot _ => "Reading workers from snapshot"
  | askingMaster _ => "Requesting worker report from master"
  | loadedSnapshot _ _ => "Loaded cluster snapshot"
  | requestingWorkers _ => "Requesting worker report"
  | receivedWorkers _ => "Received worker report"
  | fetchedWorkers _ _ => "Fetched worker records"
  | overuse _ => "Worker reports more used bytes than capacity"
  | collectedWorkers _ _ _ _ => "Collected worker capacity"
  | exported _ => "Report exported"

/-- The particulars of the event. -/
def fields : Event → List (String × String)
  | choseWorkers selector => [("selector", selector.logText)]
  | loadedSettings directory => [("config_dir", Text.quoted directory)]
  | readingSnapshot path => [("path", Text.quoted path)]
  | askingMaster url => [("master", url)]
  | loadedSnapshot live lost => [("live", toString live), ("lost", toString lost)]
  | requestingWorkers url => [("url", url)]
  | receivedWorkers count => [("workers", toString count)]
  | fetchedWorkers count range => [("workers", toString count), ("range", range.name)]
  | overuse found => [
    ("worker", found.host), ("used", toString found.used.toInt),
    ("capacity", toString found.capacity.toInt)]
  | collectedWorkers count tiers capacity used => [
    ("workers", toString count), ("tiers", toString tiers), ("capacity", toString capacity.toInt),
    ("used", toString used.toInt)]
  | exported path => [("path", Text.quoted path)]

/-- Particulars between blanks. -/
def fieldsText (fields : List (String × String)) : String :=
  " ".intercalate (fields.map (fun (name, value) => name ++ "=" ++ value))

/-- The message followed by the particulars. -/
def text (event : Event) : String := event.message ++ " " ++ fieldsText event.fields

/-- The event as a line. -/
def line (event : Event) : String := event.level.name ++ " " ++ event.text

end Event

/-- What is told about the collection of a report from workers. -/
def Report.notes (report : Report) (workers : List Worker) : List Event :=
  .fetchedWorkers workers.length report.range :: (overuses workers).map .overuse
    ++ [.collectedWorkers report.rows.length report.totals.capacityTiers.size
      report.totals.capacity report.totals.used]

end ClusterCapacity
