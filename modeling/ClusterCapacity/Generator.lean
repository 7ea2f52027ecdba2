import ClusterCapacity.Event
import ClusterCapacity.Report.Document
import ClusterCapacity.Report.Text
import ClusterCapacity.Sink
import ClusterCapacity.Source.Basic

/-!
# Generating reports

A generator asks its source once per report, collects the workers it gets and delivers the text of
the report to a sink.  Nothing is written when the source fails.
-/

namespace ClusterCapacity

/-- Why there is no report. -/
inductive ReportError where
  | usage (error : SelectionError)
  | source (error : SourceError)
  | output (error : IoError)
deriving DecidableEq, Repr

/-- What the user is told. -/
def ReportError.message : ReportError → String
  | usage error => error.message
  | source error => error.message
  | output error => "Writing the report failed: " ++ error.message

/-- What reports are made from. -/
structure Generator (m : Type → Type) where
  source : Source m
  displayTiers : List String
  log : Event → m Unit

namespace Generator

variable {m : Type → Type} [Monad m]

/-- Fetches the chosen workers and collects their report. -/
def collect (generator : Generator m) (selector : Selector) : ExceptT ReportError m Report := do
  let workers ← (generator.source.fetch selector.query).adapt .source
  let report := Report.collect generator.displayTiers selector.range workers
  (report.notes workers).forM (fun event => liftM (generator.log event))
  return report

/-- Collects a report and delivers its text. -/
def generate (generator : Generator m) (selector : Selector) (sink : Sink m) :
    ExceptT ReportError m Report := do
  let report ← generator.collect selector
  (sink.deliver report.text).adapt .output
  return report

end Generator

end ClusterCapacity
