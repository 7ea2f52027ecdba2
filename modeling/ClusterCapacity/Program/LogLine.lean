import ClusterCapacity.Program.LogFilter
import ClusterCapacity.Run.Basic

/-!
# Log lines

An event is logged as a line with the time, the level, the work that it belongs to as far as the
filter asks for it, the part of the program and the text.
-/

namespace ClusterCapacity

/-! ### Work -/

/-- A piece of work that events belong to. -/
structure Span where
  name : String
  /-- The part of the program that does the work. -/
  origin : String
  fields : List (String × String)
deriving DecidableEq, Repr

/-- The work in words. -/
def Span.text (span : Span) : String :=
  span.name ++ "\x7b" ++ Event.fieldsText span.fields ++ "\x7d"

/-- A range as it is shown in spans. -/
def Range.logText : Range → String
  | all => "All"
  | live => "Live"
  | lost => "Lost"
  | specified => "Specified"

/-- A fact as it is shown in spans. -/
def WorkerFact.logText : WorkerFact → String
  | address => "Address"
  | capacityBytes => "CapacityBytes"
  | capacityBytesOnTiers => "CapacityBytesOnTiers"
  | lastContactSec => "LastContactSec"
  | usedBytes => "UsedBytes"
  | usedBytesOnTiers => "UsedBytesOnTiers"

/-- A query as it is shown in spans. -/
def Query.logText (query : Query) : String :=
  "WorkerReportOptions \x7b range: " ++ query.range.logText
    ++ ", addresses: \x7b" ++ ", ".intercalate (query.addresses.map Text.quoted)
    ++ "\x7d, fields: \x7b" ++ ", ".intercalate (query.facts.map WorkerFact.logText)
    ++ "\x7d \x7d"

namespace Run

/-- The name of the source in spans. -/
def sourceName (run : Run) : String :=
  if run.settings.snapshot.isSome then "FileWorkerSource" else "HttpWorkerSource"

/-- The work of making the report. -/
def collecting (run : Run) : Span where
  name := "collect"
  origin := "capacity_report_core::collectors::orchestrator"
  fields := [("selector", run.selector.logText), ("source", Text.quoted run.sourceName)]

/-- The work of asking the source. -/
def fetching (run : Run) : Span where
  name := "worker_report"
  origin :=
    if run.settings.snapshot.isSome then "capacity_report_core::sources::file_source"
    else "capacity_report_core::sources::http_source"
  fields :=
    match run.settings.snapshot with
    | some path => [("options", run.selector.query.logText), ("path", Text.quoted path)]
    | none => [("master", run.settings.masterUrl.text)]

/-- The work that an event belongs to, the outermost first. -/
def spans (run : Run) : Event → List Span
  | .loadedSnapshot _ _ | .requestingWorkers _ | .receivedWorkers _ =>
    [run.collecting, run.fetching]
  | .fetchedWorkers _ _ | .overuse _ | .collectedWorkers _ _ _ _ => [run.collecting]
  | _ => []

end Run

/-! ### Lines -/

/-- How events become lines: for the filter that is given, if there is one, and for a verbose
program or another, the line about an event within some work at some time, unless it is held back.
What libraries log on their own behalf goes to the same messages and is none of these events. -/
structure Logging where
  line? (given : Option String) (verbose : Bool) (time : String) (spans : List Span)
    (event : Event) : Option String

/-- The work that the filter asks for. -/
def LogFilter.spansText (filter : LogFilter) (spans : List Span) : String :=
  match spans.filter (fun span => (filter.detail span.origin).shows .debug) with
  | [] => ""
  | shown => String.join (shown.map (fun span => span.text ++ ":")) ++ " "

/-- Lines as a log filter lets them through. -/
def Logging.standard : Logging where
  line? given verbose time spans event :=
    let filter := LogFilter.choose given verbose
    if (filter.detail event.origin).shows event.level then
      some (time ++ " " ++ Text.spaces (5 - event.level.name.length) ++ event.level.name ++ " "
        ++ filter.spansText spans ++ event.origin ++ ": " ++ event.text ++ "\n")
    else none

end ClusterCapacity
