import ClusterCapacity.Generator
import ClusterCapacity.Source.Memory

/-!
# Sessions

A session sends requests to one generator over a source in memory.  Between requests the workers and
the failure of the source may change.  The last report that succeeded can be exported.
-/

namespace ClusterCapacity

namespace Session

/-- What a request can change. -/
structure World where
  memory : Memory
  buffer : Buffer := {}
  /-- The events so far, the last one first. -/
  events : List Event := []

/-- The source in memory of the world. -/
def source : Source (StateM World) where
  fetch query := fun world =>
    let (answer, memory) := world.memory.fetch query
    (answer, { world with memory := memory })

/-- The sink in memory of the world. -/
def sink (behaviour : Buffer.Behaviour) : Sink (StateM World) where
  write offered := fun world =>
    let (answer, buffer) := world.buffer.write behaviour offered
    (answer, { world with buffer := buffer })
  flush := fun world => (behaviour.flush, world)

/-- Keeps an event. -/
def log (event : Event) : StateM World Unit :=
  modify (fun world => { world with events := event :: world.events })

/-- The generator over the source in memory. -/
def generator (displayTiers : List String) : Generator (StateM World) := ⟨source, displayTiers, log⟩

end Session

/-- A generator's source, its settings and its last report. -/
structure Session where
  memory : Memory
  displayTiers : List String := defaultDisplayTiers
  last : Option Report := none

namespace Session

/-- What a request brought about. -/
structure Outcome where
  result : Except ReportError Report
  buffer : Buffer
  events : List Event

/-- Answers one request: the filters are resolved first, and a success becomes the last report. -/
def answer (session : Session) (filters : List Filter)
    (request : Selector → ExceptT ReportError (StateM World) Report) : Outcome × Session :=
  match Selector.resolve filters with
  | .error error => (⟨.error (.usage error), {}, []⟩, session)
  | .ok selector =>
    let (result, world) := (request selector).run { memory := session.memory }
    let last := match result with
      | .ok report => some report
      | .error _ => session.last
    (⟨result, world.buffer, world.events.reverse⟩,
      { session with memory := world.memory, last := last })

/-- Generates a report into a sink in memory. -/
def generate (session : Session) (filters : List Filter) (behaviour : Buffer.Behaviour) :
    Outcome × Session :=
  session.answer filters (fun selector =>
    (generator session.displayTiers).generate selector (sink behaviour))

/-- Collects a report without writing it. -/
def collect (session : Session) (filters : List Filter) : Outcome × Session :=
  session.answer filters (generator session.displayTiers).collect

/-- The export of the last report, if there is one. -/
def export? (session : Session) (time : String) : Option String :=
  session.last.map (fun report => report.exportText time)

/-- Puts other workers into the source. -/
def setWorkers (session : Session) (workers : List Worker) : Session :=
  { session with memory := { session.memory with workers := workers } }

/-- Makes later fetches fail, or succeed again. -/
def setFailure (session : Session) (failure : Option SourceError) : Session :=
  { session with memory := { session.memory with failure := failure } }

end Session

end ClusterCapacity
