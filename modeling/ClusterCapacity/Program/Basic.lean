import ClusterCapacity.CommandLine.Reading
import ClusterCapacity.Program.LogLine

/-!
# The program

The program reads its command line, makes its report and ends with an exit code.  The report goes to
the output, and everything else that there is to say goes to the messages.
-/

namespace ClusterCapacity

namespace Program

/-- Where the program speaks. -/
structure Console (m : Type → Type) where
  output : Sink m
  tell : String → m Unit

/-- Environment variables with their values. -/
abbrev Environment := List (String × String)

/-- The name of the variable for the directory of the settings file. -/
def directoryVariable : String := "CAPACITY_REPORT_CONFIG"

/-- The name of the variable for the log filter. -/
def filterVariable : String := "RUST_LOG"

/-- Where the settings file is looked for: where the user says, else in the user's directory for
settings, else below the working directory. -/
def settingsDirectory (environment : Environment) : String :=
  match environment.lookup directoryVariable with
  | some directory => directory
  | none =>
    match (environment.lookup "XDG_CONFIG_HOME").filter Path.isAbsolute with
    | some directory => Path.join directory programName
    | none =>
      match (environment.lookup "HOME").filter (fun home => !home.isEmpty) with
      | some home => Path.join (Path.join home ".config") programName
      | none => "./.config"

/-- What the texts of the command line show of the surroundings. -/
def surroundings (environment : Environment) : CommandLine.Surroundings where
  environment := environment
  settingsDirectory := settingsDirectory environment

/-! ### Errors -/

/-- A numbered cause; further lines of its text are indented. -/
def causeText (number : Nat) (text : String) : String :=
  let digits := toString number
  "\n" ++ Text.spaces (4 - digits.length) ++ digits ++ ": "
    ++ String.ofList (text.toList.flatMap (fun c => if c = '\n' then '\n' :: List.replicate 6 ' '
      else [c]))

/-- Numbers causes from the given number on. -/
def causesText : Nat → List String → String
  | _, [] => ""
  | number, cause :: rest => causeText number cause ++ causesText (number + 1) rest

/-- What the user is told about an error and its causes. -/
def errorText (error : RunError) : String :=
  "Error: " ++ causesText 0 (error.message :: error.causes) ++ "\n"

/-! ### Running -/

variable {m : Type → Type} [Monad m]

/-- Tells the line of an event at a time, if it has one. -/
def log (host : Host m) (console : Console m) (line? : String → Event → Option String)
    (event : Event) : m Unit := do
  match line? (← host.now) event with
  | some line => console.tell line
  | none => return ()

/-- Ends the program because of an error; too many filters also bring up the usage. -/
def fail (console : Console m) (error : RunError) : m UInt32 := do
  match error with
  | .report (.usage _) => console.tell (CommandLine.usage ++ "\n")
  | _ => pure ()
  console.tell (errorText error)
  return 1

/-- Makes the report that the arguments ask for. -/
def report (host : Host m) (console : Console m) (logging : Logging) (environment : Environment)
    (arguments : Arguments) : m UInt32 := do
  let line? := logging.line? (environment.lookup filterVariable) arguments.verbose
  let outside := log host console (fun time => line? time [])
  match ← (Run.prepare host outside (settingsDirectory environment) arguments).run with
  | .error error => fail console error
  | .ok run =>
    let within := log host console (fun time event => line? time (run.spans event) event)
    match ← (run.generate host within console.output).run with
    | .error error => fail console error
    | .ok _ => return 0

/-- Runs the program on the words of its command line. -/
def run (host : Host m) (console : Console m) (logging : Logging) (environment : Environment)
    (words : List String) : m UInt32 := do
  match CommandLine.read (surroundings environment) words with
  | .ok arguments => report host console logging environment arguments
  | .error stop =>
    let text := stop.text (surroundings environment)
    if stop.isAnswer then
      let _ ← (console.output.deliver text).run
    else console.tell text
    return stop.exitCode

end Program

end ClusterCapacity
