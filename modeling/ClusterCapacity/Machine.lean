import ClusterCapacity.Files
import ClusterCapacity.Program.Basic

/-!
# Machines in memory

A machine as a value: its files, what masters answer, and the sinks for output and for messages.
Runs on it are functions from machines to machines.
-/

namespace ClusterCapacity

/-- A machine in memory. -/
structure Machine where
  files : FileNode := .directory []
  /-- The names on the way from the root of the files to the working directory. -/
  directory : List String := []
  /-- Whether requests can be sent that wait as long as given. -/
  canAsk : Duration → Bool := fun _ => true
  /-- What a master answers to a request that waits as long as given. -/
  answer : Duration → Url → Option Response := fun _ _ => none
  /-- How the sink for output behaves. -/
  behaviour : Buffer.Behaviour := Buffer.unbounded
  /-- What has reached the sink for output. -/
  output : Buffer := {}
  /-- What the user was told beside it, the last text first. -/
  messages : List String := []
  /-- The events so far, the last one first. -/
  events : List Event := []
  /-- The requests that were sent, the last one first. -/
  requests : List Url := []
  /-- The time. -/
  time : String := ""

namespace Machine

/-- The path of the working directory. -/
def directoryPath (machine : Machine) : String := "/" ++ "/".intercalate machine.directory

/-- What is in the file at a path. -/
def contents (path : String) (machine : Machine) : Except IoError (List UInt8) :=
  machine.files.read machine.directory path

/-- Whether there is a file at a path. -/
def isFile (path : String) (machine : Machine) : Bool :=
  machine.files.isFile machine.directory path

/-- Puts a file in place. -/
def writeFile (path : String) (bytes : List UInt8) (machine : Machine) :
    Except IoError Unit × Machine :=
  match machine.files.write machine.directory path bytes with
  | .ok files => (.ok (), { machine with files := files })
  | .error error => (.error error, machine)

/-- Asks a master. -/
def send (timeout : Duration) (url : Url) (machine : Machine) : Option Response × Machine :=
  (machine.answer timeout url, { machine with requests := url :: machine.requests })

/-- The machine as the host of a run. -/
def host : Host (StateM Machine) where
  directory := fun machine => (machine.directoryPath, machine)
  isFile path := fun machine => (machine.isFile path, machine)
  read path := fun machine => (machine.contents path, machine)
  write path bytes := writeFile path bytes
  canAsk timeout := fun machine => (machine.canAsk timeout, machine)
  send timeout url := send timeout url
  now := fun machine => (machine.time, machine)

/-- The sink for output. -/
def sink : Sink (StateM Machine) where
  write offered := fun machine =>
    let (answer, output) := machine.output.write machine.behaviour offered
    (answer, { machine with output := output })
  flush := fun machine => (machine.behaviour.flush, machine)

/-- Keeps an event. -/
def log (event : Event) : StateM Machine Unit :=
  modify (fun machine => { machine with events := event :: machine.events })

/-- Keeps a message. -/
def tell (text : String) : StateM Machine Unit :=
  modify (fun machine => { machine with messages := text :: machine.messages })

/-- Gets a run ready and lets it make its report. -/
def run (directory : String) (arguments : Arguments) (machine : Machine) :
    Except RunError Report × Machine :=
  let making : ExceptT RunError (StateM Machine) Report := do
    (← Run.prepare host log directory arguments).generate host log sink
  making.run machine

/-- Runs the program on the words of its command line. -/
def execute (logging : Logging) (environment : Program.Environment) (words : List String)
    (machine : Machine) : UInt32 × Machine :=
  (Program.run host ⟨sink, tell⟩ logging environment words).run machine

end Machine

end ClusterCapacity
