import ClusterCapacity.CommandLine.Flag
import ClusterCapacity.Selection
import ClusterCapacity.Settings.Basic

/-!
# Arguments

What the user asks for on the command line: which workers, where from and where to.
-/

namespace ClusterCapacity

/-- What the command line says. -/
structure Arguments where
  live : Bool := false
  lost : Bool := false
  workers : Option String := none
  masterUrl : Option String := none
  snapshot : Option String := none
  timeout : Option String := none
  outputFile : Option String := none
  verbose : Bool := false
deriving DecidableEq, Repr, Inhabited

namespace Arguments

/-- The filters that were given. -/
def filters (arguments : Arguments) : List Filter :=
  (if arguments.live then [.live] else []) ++ (if arguments.lost then [.lost] else [])
    ++ (arguments.workers.map Filter.workers).toList

/-- What the arguments say about settings. -/
def overrides (arguments : Arguments) : Settings.Overrides where
  masterUrl := arguments.masterUrl
  snapshot := arguments.snapshot
  timeout := arguments.timeout
  outputFile := arguments.outputFile

/-- The arguments of flags with their values. -/
def ofFlags (flags : List (CommandLine.Flag × String)) : Arguments where
  live := (flags.lookup .live).isSome
  lost := (flags.lookup .lost).isSome
  workers := flags.lookup .workers
  masterUrl := flags.lookup .masterUrl
  snapshot := flags.lookup .snapshot
  timeout := flags.lookup .timeout
  outputFile := flags.lookup .outputFile
  verbose := (flags.lookup .verbose).isSome

end Arguments

end ClusterCapacity
