/-!
# Flags

The flags that the command line may hold.  A flag has a long name, and some have a letter as well;
some take a value, which is named in the help.
-/

namespace ClusterCapacity

/-- The name of the program. -/
def programName : String := "capacity-report"

namespace CommandLine

/-- A flag of the command line. -/
inductive Flag where
  | live | lost | workers | masterUrl | snapshot | timeout | outputFile | verbose | help | version
deriving DecidableEq, Repr

namespace Flag

/-- The long name. -/
def name : Flag → String
  | live => "live"
  | lost => "lost"
  | workers => "workers"
  | masterUrl => "master-url"
  | snapshot => "snapshot"
  | timeout => "timeout"
  | outputFile => "output-file"
  | verbose => "verbose"
  | help => "help"
  | version => "version"

/-- The letter that can stand for the name. -/
def letter? : Flag → Option Char
  | verbose => some 'v'
  | help => some 'h'
  | version => some 'V'
  | _ => none

/-- What the value of the flag is called, if it takes one. -/
def valueName? : Flag → Option String
  | workers => some "WORKER_NAMES"
  | masterUrl => some "URL"
  | snapshot => some "FILE"
  | timeout => some "DURATION"
  | outputFile => some "FILE"
  | _ => none

/-- Whether the value is a path, which is never empty. -/
def isPath : Flag → Bool
  | snapshot => true
  | outputFile => true
  | _ => false

/-- Whether the flag says something about the report, and not about the program. -/
def isArgument : Flag → Bool
  | help => false
  | version => false
  | _ => true

/-- What the flag is for. -/
def description : Flag → String
  | live => "Live workers only"
  | lost => "Lost workers only"
  | workers => "Specified workers only, host names or IP addresses separated by \",\""
  | masterUrl => "Master to request the worker report from"
  | snapshot => "Read workers from a cluster snapshot file (JSON or YAML) instead of the master"
  | timeout => "Request timeout for the master, e.g. \"30s\" or \"2m\""
  | outputFile => "Additionally export the report as JSON to this file"
  | verbose => "Enable debug logging"
  | help => "Print help"
  | version => "Print version"

/-- The environment variable that gives the value when the command line does not. -/
def variableName? : Flag → Option String
  | masterUrl => some "CAPACITY_REPORT_MASTER_URL"
  | _ => none

/-- Every flag, in the order of the help. -/
def every : List Flag :=
  [live, lost, workers, masterUrl, snapshot, timeout, outputFile, verbose, help, version]

/-- The flag of a long name. -/
def ofName? (name : String) : Option Flag := every.find? (fun flag => flag.name = name)

/-- The flag of a letter. -/
def ofLetter? (letter : Char) : Option Flag := every.find? (fun flag => flag.letter? = some letter)

/-- Whether the flag takes a value. -/
def takesValue (flag : Flag) : Bool := flag.valueName?.isSome

/-- The flag as it is written, with the name of its value. -/
def shown (flag : Flag) : String :=
  match flag.valueName? with
  | some value => "--" ++ flag.name ++ " <" ++ value ++ ">"
  | none => "--" ++ flag.name

end Flag

end CommandLine

end ClusterCapacity
