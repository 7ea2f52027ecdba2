import ClusterCapacity.CommandLine.Arguments
import ClusterCapacity.Generator
import ClusterCapacity.Run.Host
import ClusterCapacity.Source.File

/-!
# Runs

A run resolves its filters, then its settings, then makes one report: it asks its source, writes the
text of the report to a sink, and exports the report if the settings say so.  A step that fails ends
the run, so nothing is written before the workers are there and nothing is exported before the text
is written.
-/

namespace ClusterCapacity

/-- Why a run failed. -/
inductive RunError where
  | report (error : ReportError)
  | settings (error : SettingsError)
  | timeout (text : String) (error : DurationError)
  /-- There is no source to make a report from. -/
  | source (error : SourceError)
  | exporting (path : String) (error : IoError)
deriving DecidableEq, Repr

namespace RunError

/-- What the user is told. -/
def message : RunError → String
  | report error => error.message
  | settings error => error.message
  | timeout text _ => "Invalid timeout " ++ Text.quoted text
  | source error => error.message
  | exporting path _ => "Failed to write report to " ++ Text.quoted path

/-- What lies behind the error, the nearest cause first. -/
def causes : RunError → List String
  | report (.source error) => error.causes
  | report (.output error) => [error.message]
  | timeout _ error => [error.message]
  | source error => error.causes
  | exporting _ error => [error.message]
  | _ => []

end RunError

/-- A run that is ready to make its report. -/
structure Run where
  settings : Settings
  selector : Selector

namespace Run

variable {m : Type → Type} [Monad m]

/-- Gets a run ready: the filters are resolved before anything is looked at. -/
def prepare (host : Host m) (log : Event → m Unit) (directory : String) (arguments : Arguments) :
    ExceptT RunError m Run := do
  match Selector.resolve arguments.filters with
  | .error error => throw (.report (.usage error))
  | .ok selector =>
    liftM (log (.choseWorkers selector))
    let settings ← (Settings.load host directory arguments.overrides).adapt .settings
    liftM (log (.loadedSettings settings.directory))
    return ⟨settings, selector⟩

/-- The source that the settings choose; only a master needs the timeout. -/
def source (run : Run) (host : Host m) (log : Event → m Unit) : ExceptT RunError m (Source m) := do
  match run.settings.snapshot with
  | some path =>
    liftM (log (.readingSnapshot path))
    return Source.file log host.readText path
  | none =>
    liftM (log (.askingMaster run.settings.masterUrl.text))
    match Duration.parse run.settings.timeout with
    | .error error => throw (.timeout run.settings.timeout error)
    | .ok timeout =>
      if ← liftM (host.canAsk timeout) then
        return Source.master log (host.send timeout) run.settings.masterUrl
      else throw (.source (.request .cannotSend))

/-- Exports a report to the file that the settings name. -/
def exportReport (run : Run) (host : Host m) (log : Event → m Unit) (report : Report) :
    ExceptT RunError m Unit := do
  match run.settings.outputFile with
  | none => return ()
  | some path =>
    let text := report.exportText (← liftM host.now)
    (host.write path text.toUTF8.toList).adapt (.exporting path)
    liftM (log (.exported path))

/-- Makes the report, writes it to a sink and exports it. -/
def generate (run : Run) (host : Host m) (log : Event → m Unit) (sink : Sink m) :
    ExceptT RunError m Report := do
  let source ← run.source host log
  let generator : Generator m := ⟨source, run.settings.displayTiers, log⟩
  let report ← (generator.generate run.selector sink).adapt .report
  run.exportReport host log report
  return report

end Run

end ClusterCapacity
