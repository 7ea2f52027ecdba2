import ClusterCapacity.CommandLine.Arguments
import ClusterCapacity.CommandLine.Help
import ClusterCapacity.Text.Similarity

/-!
# Reading a command line

The words of a command line are read one after the other.  A flag is given once; its value follows
after an equals sign or as the next word.  A value that comes as a word of its own is only looked at
when the next flag or the end is reached, so the first fault in that order counts.
-/

namespace ClusterCapacity.CommandLine

/-- Why no report is made. -/
inductive Stop where
  | help
  | version
  /-- A word that means nothing, perhaps a flag that is similar to it, and the usage to show. -/
  | unexpected (word : String) (similar : Option Flag) (usage : String)
  | missingValue (flag : Flag)
  | repeated (flag : Flag)
  | attachedValue (flag : Flag) (value : String) (usage : String)
deriving DecidableEq, Repr

namespace Stop

/-- How every fault ends. -/
def hint : String := "\n\nFor more information, try '--help'.\n"

/-- What the user is told. -/
def text (surroundings : Surroundings) : Stop → String
  | help => helpText surroundings
  | version => versionText surroundings
  | unexpected word similar usage =>
    let tip := match similar with
      | some flag => "\n\n  tip: a similar argument exists: '--" ++ flag.name ++ "'"
      | none => ""
    "error: unexpected argument '" ++ word ++ "' found" ++ tip ++ "\n\n" ++ usage ++ hint
  | missingValue flag =>
    "error: a value is required for '" ++ flag.shown ++ "' but none was supplied" ++ hint
  | repeated flag =>
    "error: the argument '" ++ flag.shown ++ "' cannot be used multiple times\n\n" ++ usage ++ hint
  | attachedValue flag value usage =>
    "error: unexpected value '" ++ value ++ "' for '" ++ flag.shown
      ++ "' found; no more were expected\n\n" ++ usage ++ hint

/-- Whether the user asked for the text and did nothing wrong. -/
def isAnswer : Stop → Bool
  | help => true
  | version => true
  | _ => false

/-- The exit code of the program. -/
def exitCode (stop : Stop) : UInt32 := if stop.isAnswer then 0 else 2

end Stop

/-! ### Progress -/

/-- A flag whose value comes as a word of its own. -/
inductive Pending where
  | none
  | awaiting (flag : Flag)
  | holding (flag : Flag) (value : String)
deriving DecidableEq, Repr

/-- What has been read. -/
structure Progress where
  /-- The flags that are settled with their values, the last one first. -/
  settled : List (Flag × String) := []
  pending : Pending := .none
  /-- Whether the word `--` was seen, after which there are no flags. -/
  closed : Bool := false
deriving Repr

namespace Progress

/-- Settles a flag, which may not be settled before. -/
def put (progress : Progress) (flag : Flag) (value : String) : Except Stop Progress :=
  if (progress.settled.lookup flag).isSome then .error (.repeated flag)
  else if flag.isPath && value.isEmpty then .error (.missingValue flag)
  else .ok { progress with settled := (flag, value) :: progress.settled }

/-- Settles the pending flag. -/
def settle (progress : Progress) : Except Stop Progress :=
  match progress.pending with
  | .none => .ok progress
  | .awaiting flag => .error (.missingValue flag)
  | .holding flag value => { progress with pending := .none }.put flag value

/-- Takes a flag with its value. -/
def take (progress : Progress) (flag : Flag) (value : String) : Except Stop Progress := do
  let progress ← progress.settle
  match flag with
  | .help => throw .help
  | .version => throw .version
  | flag => progress.put flag value

/-- Whether any flag about the report was begun and got its value. -/
def hasBegun (progress : Progress) : Bool :=
  !progress.settled.isEmpty
    || (match progress.pending with
      | .holding _ _ => true
      | _ => false)

/-! ### Words -/

/-- The flag whose name is similar to a name that is no flag's. -/
def similarFlag? (name : List Char) : Option Flag :=
  (Text.mostSimilar? name (Flag.every.map (fun flag => flag.name.toList))).bind
    (fun name => Flag.ofName? (String.ofList name))

/-- Takes a long name that may have a value attached. -/
def takeLong (progress : Progress) (name : List Char) (value : Option String) :
    Except Stop Progress :=
  match Flag.ofName? (String.ofList name), value with
  | some flag, some value =>
    if flag.takesValue then progress.take flag value
    else .error (.attachedValue flag value (usageWith (!progress.settled.isEmpty) (some flag)))
  | some flag, none =>
    if flag.takesValue then do
      return { ← progress.settle with pending := .awaiting flag }
    else progress.take flag ""
  | none, _ =>
    let similar := similarFlag? name
    let begun := progress.hasBegun || similar.any Flag.isArgument
    .error (.unexpected (String.ofList ('-' :: '-' :: name)) similar (usageWith begun similar))

/-- Takes letters that stand for flags. -/
def takeLetters (progress : Progress) : List Char → Except Stop Progress
  | [] => .ok progress
  | letter :: rest =>
    match Flag.ofLetter? letter with
    | some flag => do takeLetters (← progress.take flag "") rest
    | none => .error (.unexpected (String.ofList ['-', letter]) none usage)

/-- Takes a word that is no flag. -/
def takePlain (progress : Progress) (word : String) : Except Stop Progress :=
  match progress.pending with
  | .awaiting flag => .ok { progress with pending := .holding flag word }
  | _ => .error (.unexpected word none usage)

/-- The value after the first equals sign, if there is one. -/
def attached? (word : List Char) : Option String :=
  match word.dropWhile (· ≠ '=') with
  | [] => none
  | _ :: value => some (String.ofList value)

/-- Takes one word. -/
def takeWord (progress : Progress) (word : String) : Except Stop Progress :=
  if progress.closed then .error (.unexpected word none usage)
  else
    match word.toList with
    | ['-', '-'] => .ok { progress with closed := true }
    | '-' :: '-' :: rest => progress.takeLong (rest.takeWhile (· ≠ '=')) (attached? rest)
    | '-' :: letter :: rest => progress.takeLetters (letter :: rest)
    | _ => progress.takePlain word

/-- Gives the flags their values from environment variables where the command line does not. -/
def takeVariables (surroundings : Surroundings) (progress : Progress) : List (Flag × String) :=
  let missing := Flag.every.filter (fun flag => (progress.settled.lookup flag).isNone)
  progress.settled ++ missing.filterMap (fun flag =>
    (flag.variableName?.bind surroundings.valueOf?).map (fun value => (flag, value)))

end Progress

/-- Reads the words of a command line, without the name of the program. -/
def read (surroundings : Surroundings) (words : List String) : Except Stop Arguments := do
  let progress ← words.foldlM Progress.takeWord {}
  let progress ← progress.settle
  return .ofFlags (progress.takeVariables surroundings)

end ClusterCapacity.CommandLine
