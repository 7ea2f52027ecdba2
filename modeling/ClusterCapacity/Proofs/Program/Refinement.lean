import ClusterCapacity.Proofs.CommandLine.Verbosity
import ClusterCapacity.Proofs.Run.Effects
import ClusterCapacity.Proofs.Run.Simulation

/-!
# The program and the run inside it

What the program does is what the run inside it does (`Machine.execute_refines_run`): the output,
the requests and the export are those of the run, and the exit code tells whether the run brought a
report.  Log lines, usage and errors become messages, which go elsewhere, and so neither the log
filter nor the verbosity makes any difference to the rest.

The program and the run differ in what they do about events only: the run notes them, and the
program tells the lines of those that are not held back.  On machines that are in step
(`Machine.InStep`) both do the same, stage by stage, so that only the export is left to be compared,
which shows the time.
-/

namespace ClusterCapacity

namespace Machine

/-! ### Machines in step -/

/-- Whether two machines differ in the time and in what they note or tell at most. -/
structure Alike (machine other : Machine) : Prop where
  files : other.files = machine.files
  directory : other.directory = machine.directory
  canAsk : other.canAsk = machine.canAsk
  answer : other.answer = machine.answer
  behaviour : other.behaviour = machine.behaviour
  output : other.output = machine.output
  requests : other.requests = machine.requests

/-- Whether `told`, which was `before` in the beginning, differs from `noted`, which was `other`, in
the time, the files and the notes at most, and the lines of all events that were noted on the one
were told on the other. -/
structure InStep (line : Event → Option String) (before other told noted : Machine) : Prop where
  canAsk : noted.canAsk = told.canAsk
  answer : noted.answer = told.answer
  behaviour : noted.behaviour = told.behaviour
  output : noted.output = told.output
  requests : noted.requests = told.requests
  directory_told : told.directory = before.directory
  directory_noted : noted.directory = before.directory
  time_told : told.time = before.time
  time_noted : noted.time = other.time
  notes : ∃ events, noted.events = events ++ other.events ∧
    told.messages = events.filterMap line ++ before.messages

variable {line : Event → Option String} {before other told noted : Machine}

theorem Alike.inStep (h : Alike before other) : InStep line before other before other :=
  ⟨h.canAsk, h.answer, h.behaviour, h.output, h.requests, rfl, h.directory, rfl, rfl,
    [], rfl, rfl⟩

theorem InStep.withFiles (h : InStep line before other told noted) (files files' : FileNode) :
    InStep line before other { told with files := files } { noted with files := files' } :=
  ⟨h.canAsk, h.answer, h.behaviour, h.output, h.requests, h.directory_told, h.directory_noted,
    h.time_told, h.time_noted, h.notes⟩

/-- The way in which the program logs on a machine. -/
def logTelling (line? : String → Event → Option String) : Event → StateM Machine Unit :=
  Program.log host ⟨sink, tell⟩ line?

theorem bind_apply {α β : Type} (step : StateM Machine α) (next : α → StateM Machine β)
    (machine : Machine) : (step >>= next) machine = next (step machine).1 (step machine).2 := rfl

theorem run_logTelling (line? : String → Event → Option String) (event : Event)
    (machine : Machine) : logTelling line? event machine = ((), { machine with
      messages := (line? machine.time event).toList ++ machine.messages }) := by
  have hnow : (host.now : StateM Machine String) machine = (machine.time, machine) := rfl
  rw [logTelling, Program.log, bind_apply, hnow]
  cases line? machine.time event <;> rfl

/-- An event that is told on the one machine and noted on the other keeps them in step. -/
theorem InStep.log {line? : String → Event → Option String} {event : Event}
    (h : InStep line before other told noted) (hline : line? before.time event = line event) :
    InStep line before other (logTelling line? event told).2 (log event noted).2 := by
  obtain ⟨events, hevents, hmessages⟩ := h.notes
  rw [run_logTelling]
  refine ⟨h.canAsk, h.answer, h.behaviour, h.output, h.requests, h.directory_told,
    h.directory_noted, h.time_told, h.time_noted, event :: events,
    congrArg (List.cons event) hevents, ?_⟩
  dsimp only
  rw [h.time_told, hmessages, hline, List.filterMap_cons]
  cases line event <;> rfl

/-! ### Stages in step -/

/-- Whether two machines are in step and the files are still those from the beginning. -/
def InStepUnexported (line : Event → Option String) (before other told noted : Machine) : Prop :=
  InStep line before other told noted ∧ told.files = before.files ∧ noted.files = before.files

theorem agree_load (line : Event → Option String) (before other : Machine) (directory : String)
    (overrides : Settings.Overrides) :
    Steps.Agree (InStepUnexported line before other)
      (Settings.load host directory overrides).run
      (Settings.load host directory overrides).run := by
  rintro told noted ⟨hstep, htold, hnoted⟩
  have hfiles : noted.files = told.files := hnoted.trans htold.symm
  have hdirectory : noted.directory = told.directory :=
    hstep.directory_noted.trans hstep.directory_told.symm
  rw [run_load, run_load, settings_congr hfiles hdirectory]
  exact ⟨rfl, hstep, htold, hnoted⟩

theorem agree_log {line? : String → Event → Option String} {event : Event}
    (hline : line? before.time event = line event) :
    Steps.Agree (InStepUnexported line before other) (logTelling line? event) (log event) := by
  rintro told noted ⟨hstep, htold, hnoted⟩
  refine ⟨rfl, hstep.log hline, ?_, hnoted⟩
  rw [run_logTelling]
  exact htold

/-- Reading, asking, delivering and logging keep machines in step. -/
theorem simulation_inStep (line? : String → Event → Option String) (before other : Machine) :
    Simulation (InStepUnexported (line? before.time) before other) (logTelling line?) log where
  read := by
    rintro path told noted ⟨hstep, htold, hnoted⟩
    refine ⟨?_, hstep, htold, hnoted⟩
    show told.files.read told.directory path = noted.files.read noted.directory path
    rw [htold, hnoted, hstep.directory_told, hstep.directory_noted]
  canAsk := by
    rintro timeout told noted ⟨hstep, htold, hnoted⟩
    refine ⟨?_, hstep, htold, hnoted⟩
    show told.canAsk timeout = noted.canAsk timeout
    rw [hstep.canAsk]
  send := by
    rintro timeout url told noted ⟨hstep, htold, hnoted⟩
    refine ⟨?_, { hstep with requests := congrArg (List.cons url) hstep.requests }, htold, hnoted⟩
    show told.answer timeout url = noted.answer timeout url
    rw [hstep.answer]
  deliver := by
    rintro text told noted ⟨hstep, htold, hnoted⟩
    rw [run_deliver, run_deliver, hstep.behaviour, hstep.output]
    exact ⟨rfl, ⟨hstep.canAsk, hstep.answer, rfl, rfl, hstep.requests, hstep.directory_told,
      hstep.directory_noted, hstep.time_told, hstep.time_noted, hstep.notes⟩, htold, hnoted⟩
  log event := agree_log rfl

/-- What a run on a machine leaves in the files if it brings `result`: a report is put at the path
that the settings give, if they do, together with the time. -/
def Exports (machine : Machine) (path? : Option String) (result : Except RunError Report)
    (time : String) (after : FileNode) : Prop :=
  match path?, result with
  | some path, .ok report =>
    machine.files.write machine.directory path (report.exportText time).toUTF8.toList = .ok after
  | _, _ => after = machine.files

theorem exports_error {path? : Option String} {error : RunError} {time : String} :
    Exports before path? (.error error) time before.files := by
  cases path? <;> rfl

/-- A report is exported on both machines or on neither. -/
theorem exists_exportReport {line? : String → Event → Option String} {run : Run}
    (h : InStepUnexported (line? before.time) before other told noted) (report : Report) :
    ∃ result after after',
      (run.exportReport host (logTelling line?) report).run told = (result, after) ∧
      (run.exportReport host log report).run noted = (result, after') ∧
      InStep (line? before.time) before other after after' ∧
      Exports before run.settings.outputFile (result.map fun _ => report) before.time
        after.files ∧
      Exports before run.settings.outputFile (result.map fun _ => report) other.time
        after'.files := by
  obtain ⟨hstep, htold, hnoted⟩ := h
  rw [run_exportReport_logging, run_exportReport_logging]
  cases run.settings.outputFile with
  | none => exact ⟨.ok (), told, noted, rfl, rfl, hstep, htold, hnoted⟩
  | some path =>
    obtain ⟨place, hplace⟩ := before.files.exists_write_eq before.directory path
    have hwrite (bytes : List UInt8) : told.files.write told.directory path bytes
        = place.map (fun names => FileNode.put (.file bytes) names before.files) := by
      rw [htold, hstep.directory_told, hplace]
    have hwrite' (bytes : List UInt8) : noted.files.write noted.directory path bytes
        = place.map (fun names => FileNode.put (.file bytes) names before.files) := by
      rw [hnoted, hstep.directory_noted, hplace]
    dsimp only
    rw [hwrite, hwrite']
    cases place with
    | error error =>
      exact ⟨.error (.exporting path error), told, noted, rfl, rfl, hstep, htold, hnoted⟩
    | ok names =>
      refine ⟨.ok (), _, _, rfl, rfl, (hstep.withFiles _ _).log rfl, ?_, ?_⟩
      · rw [run_logTelling]
        exact (hplace _).trans (by rw [exportBytes, hstep.time_told]; rfl)
      · exact (hplace _).trans (by rw [← hstep.time_noted]; rfl)

/-- Runs that are ready bring the same on both machines. -/
theorem exists_generate {line? : String → Event → Option String} {run : Run}
    (h : InStepUnexported (line? before.time) before other told noted) :
    ∃ result after after',
      (run.generate host (logTelling line?) sink).run told = (result, after) ∧
      (run.generate host log sink).run noted = (result, after') ∧
      InStep (line? before.time) before other after after' ∧
      Exports before run.settings.outputFile result before.time after.files ∧
      Exports before run.settings.outputFile result other.time after'.files := by
  have hmake := (simulation_inStep line? before other).agree_make run told noted h
  rw [run_generate_eq_make, run_generate_eq_make]
  rcases htold : (run.make host (logTelling line?) sink).run told with ⟨result, made⟩
  rcases hnoted : (run.make host log sink).run noted with ⟨result', made'⟩
  rw [htold, hnoted] at hmake
  obtain ⟨hresult, hafter⟩ := hmake
  dsimp only at hresult hafter
  subst hresult
  cases result with
  | error error =>
    obtain ⟨hstep, hfiles, hfiles'⟩ := hafter
    refine ⟨.error error, made, made', rfl, rfl, hstep, ?_, ?_⟩
    · rw [hfiles]
      exact exports_error
    · rw [hfiles']
      exact exports_error
  | ok report =>
    obtain ⟨result, after, after', hafter, hafter', hstep, hfiles, hfiles'⟩ :=
      exists_exportReport hafter report
    dsimp only
    rw [hafter, hafter']
    cases result with
    | error error => exact ⟨.error error, after, after', rfl, rfl, hstep, hfiles, hfiles'⟩
    | ok _ => exact ⟨.ok report, after, after', rfl, rfl, hstep, hfiles, hfiles'⟩

end Machine

/-! ### The program -/

namespace Program

/-- What the user is told at the end of a run, the last text first. -/
def closingTexts : Except RunError Report → List String
  | .ok _ => []
  | .error (.report (.usage error)) =>
    [errorText (.report (.usage error)), CommandLine.usage ++ "\n"]
  | .error error => [errorText error]

/-- The exit code after a run. -/
def exitCode : Except RunError Report → UInt32
  | .ok _ => 0
  | .error _ => 1

theorem exitCode_eq_zero_iff {result : Except RunError Report} :
    exitCode result = 0 ↔ ∃ report, result = .ok report := by
  cases result with
  | ok report => exact ⟨fun _ => ⟨report, rfl⟩, fun _ => rfl⟩
  | error error => exact ⟨fun hzero => absurd hzero (by decide : (1 : UInt32) ≠ 0), nofun⟩

theorem exitCode_eq_zero_or_one (result : Except RunError Report) :
    exitCode result = 0 ∨ exitCode result = 1 := by
  cases result with
  | ok report => exact .inl rfl
  | error error => exact .inr rfl

/-- Whether two environments differ in the variable for the log filter at most. -/
def AgreeBesideFilter (environment other : Environment) : Prop :=
  ∀ name, name ≠ filterVariable → other.lookup name = environment.lookup name

variable {environment other : Environment}

theorem AgreeBesideFilter.settingsDirectory_eq (h : AgreeBesideFilter environment other) :
    settingsDirectory other = settingsDirectory environment := by
  rw [settingsDirectory, settingsDirectory, h directoryVariable (by decide),
    h "XDG_CONFIG_HOME" (by decide), h "HOME" (by decide)]

theorem AgreeBesideFilter.read_eq (h : AgreeBesideFilter environment other)
    (words : List String) :
    CommandLine.read (surroundings other) words
      = CommandLine.read (surroundings environment) words := by
  have hbare : (surroundings other).bare = (surroundings environment).bare := by
    simp only [surroundings, CommandLine.Surroundings.bare, h.settingsDirectory_eq]
  have hmaster : (surroundings other).standIn? .masterUrl
      = (surroundings environment).standIn? .masterUrl :=
    h "CAPACITY_REPORT_MASTER_URL" (by decide)
  have hvariables : CommandLine.withVariables (surroundings other)
      = CommandLine.withVariables (surroundings environment) := by
    funext arguments
    rw [CommandLine.withVariables, CommandLine.withVariables, hmaster]
  rw [CommandLine.read_eq_map, hbare, hvariables, ← CommandLine.read_eq_map]

end Program

open Program (Environment settingsDirectory surroundings closingTexts exitCode AgreeBesideFilter)

namespace Machine

variable {logging : Logging} {environment : Environment} {arguments : Arguments}
  {before other : Machine}

/-- Getting a run ready looks at the files only. -/
theorem Alike.prepared_eq (h : Alike before other) (directory : String) (arguments : Arguments) :
    other.prepared directory arguments = before.prepared directory arguments := by
  simp only [prepared, run_prepare, settings_congr h.files h.directory]
  cases Selector.resolve arguments.filters with
  | error error => rfl
  | ok selector => cases before.settings directory arguments.overrides <;> rfl

/-- The line that the program logs about an event at some time. -/
def logLine? (logging : Logging) (environment : Environment) (arguments : Arguments)
    (machine : Machine) (time : String) (event : Event) : Option String :=
  let spans :=
    match machine.prepared (settingsDirectory environment) arguments with
    | .ok run => run.spans event
    | .error _ => []
  logging.line? (environment.lookup Program.filterVariable) arguments.verbose time spans event

/-- The line about an event that belongs to no work in any run. -/
theorem logLine?_of_outside {event : Event} (h : ∀ run : Run, run.spans event = [])
    (machine : Machine) (time : String) :
    machine.logLine? logging environment arguments time event
      = logging.line? (environment.lookup Program.filterVariable) arguments.verbose time []
        event := by
  unfold logLine?
  cases machine.prepared (settingsDirectory environment) arguments with
  | error error => rfl
  | ok run =>
    dsimp only
    rw [h run]

/-- Where the settings of a run say that its report is exported to. -/
def exportPath? (directory : String) (arguments : Arguments) (machine : Machine) :
    Option String :=
  match machine.prepared directory arguments with
  | .ok run => run.settings.outputFile
  | .error _ => none

/-- Gets the run inside the program ready and tells the lines of its events. -/
def prepareTelling (logging : Logging) (environment : Environment) (arguments : Arguments)
    (machine : Machine) : Except RunError Run × Machine :=
  let line? := logging.line? (environment.lookup Program.filterVariable) arguments.verbose
  (Run.prepare host (logTelling fun time => line? time []) (settingsDirectory environment)
    arguments).run machine

/-- The run inside the program, which tells the lines of its events. -/
def runTelling (logging : Logging) (environment : Environment) (arguments : Arguments)
    (machine : Machine) : Except RunError Report × Machine :=
  let line? := logging.line? (environment.lookup Program.filterVariable) arguments.verbose
  match machine.prepareTelling logging environment arguments with
  | (.error error, machine) => (.error error, machine)
  | (.ok run, machine) =>
    (run.generate host (logTelling fun time event => line? time (run.spans event) event) sink).run
      machine

/-- How the program ends after a run. -/
def ended (outcome : Except RunError Report × Machine) : UInt32 × Machine :=
  (exitCode outcome.1,
    { outcome.2 with messages := closingTexts outcome.1 ++ outcome.2.messages })

theorem run_fail (error : RunError) (machine : Machine) :
    Program.fail ⟨sink, tell⟩ error machine = ended (.error error, machine) := by
  rcases error with (_ | _ | _) | _ | _ | _ | _ <;> rfl

theorem run_report (logging : Logging) (environment : Environment) (arguments : Arguments)
    (machine : Machine) :
    Program.report host ⟨sink, tell⟩ logging environment arguments machine
      = ended (machine.runTelling logging environment arguments) := by
  let line? := logging.line? (environment.lookup Program.filterVariable) arguments.verbose
  have hprepare : (Run.prepare host (Program.log host ⟨sink, tell⟩ fun time => line? time [])
      (settingsDirectory environment) arguments).run machine
      = machine.prepareTelling logging environment arguments := rfl
  have hlog (run : Run) : Program.log host ⟨sink, tell⟩
      (fun time event => line? time (run.spans event) event)
      = logTelling (fun time event => line? time (run.spans event) event) := rfl
  unfold Program.report
  dsimp only
  rw [bind_apply, hprepare, runTelling]
  rcases machine.prepareTelling logging environment arguments with ⟨error | run, readied⟩
  · exact run_fail error readied
  · dsimp only
    rw [bind_apply, hlog]
    rcases (run.generate host (logTelling _) sink).run readied with ⟨error | report, after⟩
    · exact run_fail error after
    · rfl

theorem execute_of_read {words : List String}
    (hread : CommandLine.read (surroundings environment) words = .ok arguments)
    (machine : Machine) :
    execute logging environment words machine
      = ended (machine.runTelling logging environment arguments) := by
  rw [← run_report]
  unfold execute Program.run
  rw [hread]
  rfl

/-- The run inside the program and a run on a machine of its own get ready in step. -/
theorem exists_prepareTelling (h : Alike before other) (logging : Logging)
    (environment : Environment) (arguments : Arguments) :
    ∃ readied readied',
      before.prepareTelling logging environment arguments
        = (before.prepared (settingsDirectory environment) arguments, readied) ∧
      (Run.prepare host log (settingsDirectory environment) arguments).run other
        = (before.prepared (settingsDirectory environment) arguments, readied') ∧
      InStepUnexported (before.logLine? logging environment arguments before.time) before other
        readied readied' := by
  let line := before.logLine? logging environment arguments before.time
  let outside (time : String) := logging.line? (environment.lookup Program.filterVariable)
    arguments.verbose time []
  have hlog (event : Event) (hevent : ∀ run : Run, run.spans event = []) :
      Steps.Agree (InStepUnexported line before other) (logTelling outside event) (log event) :=
    agree_log (logLine?_of_outside hevent before before.time).symm
  obtain ⟨hresult, hstep⟩ := agree_prepare (agree_load line before other) hlog
    (settingsDirectory environment) arguments before other ⟨h.inStep, rfl, h.files⟩
  have hprepared : ((Run.prepare host log (settingsDirectory environment) arguments).run other).1
      = before.prepared (settingsDirectory environment) arguments := h.prepared_eq _ _
  exact ⟨(before.prepareTelling logging environment arguments).2,
    ((Run.prepare host log (settingsDirectory environment) arguments).run other).2,
    Prod.ext (hresult.trans hprepared) rfl, Prod.ext hprepared rfl, hstep⟩

/-- The run inside the program and a run on a machine of its own bring the same. -/
theorem exists_runTelling (h : Alike before other) (logging : Logging)
    (environment : Environment) (arguments : Arguments) :
    ∃ result after after',
      before.runTelling logging environment arguments = (result, after) ∧
      Machine.run (settingsDirectory environment) arguments other = (result, after') ∧
      InStep (before.logLine? logging environment arguments before.time) before other after
        after' ∧
      Exports before (before.exportPath? (settingsDirectory environment) arguments) result
        before.time after.files ∧
      Exports before (before.exportPath? (settingsDirectory environment) arguments) result
        other.time after'.files := by
  obtain ⟨readied, readied', htelling, hrun, hready⟩ :=
    exists_prepareTelling h logging environment arguments
  rw [run_eq, hrun, runTelling, htelling, exportPath?]
  cases hprepared : before.prepared (settingsDirectory environment) arguments with
  | error error =>
    obtain ⟨hstep, hfiles, hfiles'⟩ := hready
    exact ⟨.error error, readied, readied', rfl, rfl, hstep, hfiles, hfiles'⟩
  | ok run =>
    have hline : before.logLine? logging environment arguments = fun time event =>
        logging.line? (environment.lookup Program.filterVariable) arguments.verbose time
          (run.spans event) event := by
      unfold logLine?
      rw [hprepared]
    rw [hline] at hready ⊢
    exact exists_generate hready

/-- What the program brings and leaves, in terms of a run with the same arguments on a machine of
its own. -/
structure Refines (logging : Logging) (environment : Environment) (arguments : Arguments)
    (before other : Machine) (program : UInt32 × Machine) (run : Except RunError Report × Machine) :
    Prop where
  /-- The program puts out what the run writes to its sink, byte by byte. -/
  output : program.2.output = run.2.output
  requests : program.2.requests = run.2.requests
  /-- Both export the report that the run brings to one file, each with its own time, or neither
  changes a file. -/
  exports :
    let path? := before.exportPath? (settingsDirectory environment) arguments
    Exports before path? run.1 before.time program.2.files ∧
      Exports before path? run.1 other.time run.2.files
  /-- The exit code tells whether a report was brought. -/
  exit_zero_iff : program.1 = 0 ↔ ∃ report, run.1 = .ok report
  exit_zero_or_one : program.1 = 0 ∨ program.1 = 1
  /-- Nothing is done if the run cannot be got ready. -/
  unprepared : ∀ error,
    before.prepared (settingsDirectory environment) arguments = .error error →
    program.2.output = before.output ∧ program.2.files = before.files ∧
      program.2.requests = before.requests
  /-- The lines of the events, the usage and the error are the messages, and there are no others. -/
  messages : ∃ events, run.2.events = events ++ other.events ∧
    program.2.messages = closingTexts run.1
      ++ events.filterMap (before.logLine? logging environment arguments before.time)
      ++ before.messages

/-- Whether the program ended in the same way on two machines, apart from messages and the time of
export. -/
structure SameOutcome (before other : Machine) (program program' : UInt32 × Machine) : Prop where
  exitCode : program'.1 = program.1
  output : program'.2.output = program.2.output
  requests : program'.2.requests = program.2.requests
  exports : ∃ path? result, Exports before path? result before.time program.2.files ∧
    Exports before path? result other.time program'.2.files

theorem refines_ended (h : Alike before other) (logging : Logging) (environment : Environment)
    (arguments : Arguments) :
    Refines logging environment arguments before other
      (ended (before.runTelling logging environment arguments))
      (Machine.run (settingsDirectory environment) arguments other) := by
  obtain ⟨result, after, after', htelling, hrun, hstep, hfiles, hfiles'⟩ :=
    exists_runTelling h logging environment arguments
  obtain ⟨events, hevents, hmessages⟩ := hstep.notes
  rw [htelling, hrun]
  exact {
    output := hstep.output.symm
    requests := hstep.requests.symm
    exports := ⟨hfiles, hfiles'⟩
    exit_zero_iff := Program.exitCode_eq_zero_iff
    exit_zero_or_one := Program.exitCode_eq_zero_or_one result
    unprepared := fun error herror => by
      have hother := (h.prepared_eq (settingsDirectory environment) arguments).trans herror
      obtain ⟨noted, heq⟩ := run_of_unprepared hother
      obtain ⟨rfl, rfl⟩ := Prod.mk.inj (hrun.symm.trans heq)
      refine ⟨hstep.output.symm.trans h.output, ?_, hstep.requests.symm.trans h.requests⟩
      rwa [exportPath?, herror] at hfiles
    messages := ⟨events, hevents, by rw [ended, hmessages, List.append_assoc]⟩ }

/-- Programs that both refine one run end in the same way. -/
theorem Refines.sameOutcome {environment' : Environment} {arguments' : Arguments}
    {program program' : UInt32 × Machine} {run : Except RunError Report × Machine}
    (h : Refines logging environment arguments before other program run)
    (h' : Refines logging environment' arguments' other other program' run)
    (halike : Alike before other)
    (hpath : other.exportPath? (settingsDirectory environment') arguments'
      = before.exportPath? (settingsDirectory environment) arguments) :
    SameOutcome before other program program' where
  exitCode := by
    have hzero : program'.1 = 0 ↔ program.1 = 0 := h'.exit_zero_iff.trans h.exit_zero_iff.symm
    rcases h.exit_zero_or_one with heq | heq
    · rw [heq]
      exact hzero.mpr heq
    · rw [heq]
      refine h'.exit_zero_or_one.resolve_left fun heq' => ?_
      rw [hzero, heq] at heq'
      exact absurd heq' (by decide)
  output := h'.output.trans h.output.symm
  requests := h'.requests.trans h.requests.symm
  exports := by
    have hexports := h'.exports.1
    rw [hpath] at hexports
    refine ⟨_, run.1, h.exports.1, ?_⟩
    unfold Exports at hexports ⊢
    rwa [halike.files, halike.directory] at hexports

/-- Neither the log filter nor the verbosity nor what was noted before makes a difference to the
outcome. -/
theorem sameOutcome_execute {environment' : Environment} {words words' : List String}
    {verbose : Bool}
    (halike : Alike before other)
    (hread : CommandLine.read (surroundings environment) words = .ok arguments)
    (hagree : AgreeBesideFilter environment environment')
    (hread' : CommandLine.read (surroundings environment) words'
      = .ok { arguments with verbose := verbose }) :
    SameOutcome before other (execute logging environment words before)
      (execute logging environment' words' other) := by
  have hrefines := refines_ended halike logging environment arguments
  have hself : Alike other other := ⟨rfl, rfl, rfl, rfl, rfl, rfl, rfl⟩
  have hrefines' := refines_ended hself logging environment' { arguments with verbose := verbose }
  -- getting ready and making the report do not look at the verbosity
  have hrun : Machine.run (settingsDirectory environment') { arguments with verbose := verbose }
      other = Machine.run (settingsDirectory environment) arguments other := by
    rw [hagree.settingsDirectory_eq]
    rfl
  have hpath : other.exportPath? (settingsDirectory environment')
      { arguments with verbose := verbose }
      = before.exportPath? (settingsDirectory environment) arguments := by
    rw [hagree.settingsDirectory_eq, exportPath?, exportPath?, ← halike.prepared_eq]
    rfl
  rw [← hagree.read_eq words'] at hread'
  rw [hrun] at hrefines'
  rw [execute_of_read hread, execute_of_read hread']
  exact hrefines.sameOutcome hrefines' halike hpath

/-- The program refines the run inside it: for every command line that is read, every way of
logging, every environment and every machine, it puts out and exports what the run does, and its
exit code is zero just if the run brings a report.  All else that it tells are messages.  So it ends
in the same way for every log filter and whether or not it is verbose, be it by any command line
that means the same or by the flag in front. -/
theorem execute_refines_run (logging : Logging) (environment : Environment) (words : List String)
    {arguments : Arguments} {before other : Machine}
    (hread : CommandLine.read (surroundings environment) words = .ok arguments)
    (halike : Alike before other) :
    Refines logging environment arguments before other (execute logging environment words before)
        (Machine.run (settingsDirectory environment) arguments other) ∧
      (∀ (environment' : Environment) (words' : List String) (verbose : Bool),
        AgreeBesideFilter environment environment' →
        CommandLine.read (surroundings environment) words'
          = .ok { arguments with verbose := verbose } →
        SameOutcome before other (execute logging environment words before)
          (execute logging environment' words' other)) ∧
      ∀ (environment' : Environment), ∀ flag ∈ ["-v", "--verbose"],
        AgreeBesideFilter environment environment' → arguments.verbose = false →
        SameOutcome before other (execute logging environment words before)
          (execute logging environment' (flag :: words) other) := by
  refine ⟨?_, fun environment' words' verbose hagree hread' => ?_,
    fun environment' flag hflag hagree hverbose => ?_⟩
  · rw [execute_of_read hread]
    exact refines_ended halike logging environment arguments
  · exact sameOutcome_execute halike hread hagree hread'
  · exact sameOutcome_execute halike hread hagree
      (CommandLine.read_verbose_cons hread hverbose hflag)

/-- A report with an export, made with all logging off and made again, later, with all of it, when
there are lines that were held back before. -/
theorem execute_refines_run_verbose :
    let before : Machine := {
      files := .ofList [("home/cluster.yml", .file "live: []".toUTF8.toList)]
      directory := ["home"] }
    let later : Machine := { before with messages := ["before"], time := "2024-01-01T00:00:00Z" }
    let words := ["--snapshot", "/home/cluster.yml", "--output-file=report.json"]
    let arguments : Arguments :=
      { snapshot := some "/home/cluster.yml", outputFile := some "report.json" }
    let quiet : Environment := [("RUST_LOG", "off")]
    let loud : Environment := [("RUST_LOG", "trace")]
    Refines .standard quiet arguments before later (execute .standard quiet words before)
        (Machine.run (settingsDirectory quiet) arguments later) ∧
      SameOutcome before later (execute .standard quiet words before)
        (execute .standard loud (words ++ ["--verbose"]) later) ∧
      SameOutcome before later (execute .standard quiet words before)
        (execute .standard loud ("-v" :: words) later) ∧
      before.logLine? .standard quiet arguments "12:00" (.loadedSettings "conf") = none ∧
      before.logLine? .standard loud arguments "12:00" (.loadedSettings "conf")
        = some "12:00 DEBUG capacity_report::app: Loaded configuration config_dir=\"conf\"\n" := by
  intro before later words arguments quiet loud
  have hread : CommandLine.read (surroundings quiet) words = .ok arguments := rfl
  have halike : Alike before later := ⟨rfl, rfl, rfl, rfl, rfl, rfl, rfl⟩
  obtain ⟨hrefines, hsame, hflag⟩ := execute_refines_run .standard quiet words hread halike
  have hagree : AgreeBesideFilter quiet loud := by
    intro name hname
    show [(Program.filterVariable, "trace")].lookup name
      = [(Program.filterVariable, "off")].lookup name
    rw [lookup_cons_of_ne hname, lookup_cons_of_ne hname]
  refine ⟨hrefines, hsame _ (words ++ ["--verbose"]) true hagree (by rfl),
    hflag _ "-v" (by decide) hagree rfl, ?_, ?_⟩
  · rw [logLine?_of_outside fun _ => rfl]
    decide +kernel
  · rw [logLine?_of_outside fun _ => rfl]
    decide +kernel

end Machine

end ClusterCapacity
