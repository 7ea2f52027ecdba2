import ClusterCapacity.Machine
import ClusterCapacity.Proofs.Generator

/-!
# The stages of a run on a machine in memory

A run loads its settings (`Machine.run_load`), resolves its filters before that
(`Machine.run_prepare`), asks its source (`Machine.keeps_noted_fetch`) and then delivers and exports
its report (`Machine.run_generate`).  Loading changes nothing at all; getting ready and asking a
source leave notes, which are events and requests, and nothing else.  `Machine.run_eq` puts the
stages together.
-/

namespace ClusterCapacity

open Settings (Overrides)

/-- Asks the source of a run for the workers that the run covers. -/
def Run.fetch {m : Type → Type} [Monad m] (run : Run) (host : Host m) (log : Event → m Unit) :
    ExceptT RunError m (List Worker) := do
  let source ← run.source host log
  (source.fetch run.selector.query).adapt (fun error => .report (.source error))

/-- The report of a run about the workers it got. -/
def Run.report (run : Run) (workers : List Worker) : Report :=
  Report.collect run.settings.displayTiers run.selector.range workers

/-! ### What steps keep -/

namespace Steps

variable {σ ε ε' α β : Type} {P : σ → Prop}

/-- Whether a step keeps a property of the state, also when it fails. -/
def Keeps (P : σ → Prop) (step : StateM σ α) : Prop := ∀ state, P state → P (step state).2

theorem keeps_pure (P : σ → Prop) (value : α) :
    Keeps P (pure value : ExceptT ε (StateM σ) α).run := fun _ h => h

theorem keeps_throw (P : σ → Prop) (error : ε) :
    Keeps P (throw error : ExceptT ε (StateM σ) α).run := fun _ h => h

theorem keeps_ofExcept (P : σ → Prop) (result : Except ε α) :
    Keeps P (liftM result : ExceptT ε (StateM σ) α).run := by
  cases result with
  | error error => exact keeps_throw P error
  | ok value => exact keeps_pure P value

theorem keeps_liftM {step : StateM σ α} (h : Keeps P step) :
    Keeps P (liftM step : ExceptT ε (StateM σ) α).run := h

theorem keeps_adapt (f : ε → ε') {step : ExceptT ε (StateM σ) α} (h : Keeps P step.run) :
    Keeps P (step.adapt f).run := h

theorem keeps_bind {step : ExceptT ε (StateM σ) α} {next : α → ExceptT ε (StateM σ) β}
    (hstep : Keeps P step.run) (hnext : ∀ value, Keeps P (next value).run) :
    Keeps P (step >>= next).run := by
  intro state h
  have hafter := hstep state h
  rw [run_bind]
  rcases hrun : step.run state with ⟨error | value, after⟩
  · rwa [hrun] at hafter
  · rw [hrun] at hafter
    exact hnext value after hafter

end Steps

namespace Machine

/-! ### Settings -/

theorem run_firstFile? (paths : List String) (machine : Machine) :
    (host.firstFile? paths) machine = (paths.find? (fun path => machine.isFile path), machine) := by
  induction paths with
  | nil => rfl
  | cons path rest ih =>
    show (if machine.isFile path then (pure (some path) : StateM Machine _)
      else host.firstFile? rest) machine = _
    rw [List.find?_cons]
    cases machine.isFile path with
    | true => rfl
    | false => exact ih

/-- The layer of the settings file among the files of a machine. -/
def fileLayer (directory : String) (machine : Machine) : Except SettingsError Settings.Layer :=
  match (Settings.filePaths directory).find? (fun path => machine.isFile path) with
  | none => .ok []
  | some path =>
    match machine.contents path with
    | .error _ => .ok []
    | .ok bytes =>
      let shown := Path.shownFrom machine.directoryPath path
      match Settings.Layer.ofText shown (Text.lossy (Settings.withoutMark bytes)) with
      | .ok layer => .ok layer
      | .error fault => .error (.file shown fault)

theorem run_fileLayer (directory : String) (machine : Machine) :
    (Settings.fileLayer host directory).run machine = (machine.fileLayer directory, machine) := by
  rw [Settings.fileLayer, Steps.run_liftM_bind, run_firstFile?]
  unfold fileLayer
  cases (Settings.filePaths directory).find? (fun path => machine.isFile path) with
  | none => rfl
  | some path =>
    have hread : (host.read path).run machine = (machine.contents path, machine) := rfl
    have hdirectory : host.directory machine = (machine.directoryPath, machine) := rfl
    dsimp only
    rw [Steps.run_liftM_bind, hread]
    cases machine.contents path with
    | error error => rfl
    | ok bytes =>
      dsimp only
      rw [Steps.run_liftM_bind, hdirectory]
      cases Settings.Layer.ofText (Path.shownFrom machine.directoryPath path)
        (Text.lossy (Settings.withoutMark bytes)) <;> rfl

/-- The settings of a run on a machine. -/
def settings (directory : String) (overrides : Overrides) (machine : Machine) :
    Except SettingsError Settings := do
  let file ← machine.fileLayer directory
  Settings.resolve directory file overrides

/-- Loading settings looks at files and changes nothing. -/
theorem run_load (directory : String) (overrides : Overrides) (machine : Machine) :
    (Settings.load host directory overrides).run machine
      = (machine.settings directory overrides, machine) := by
  rw [Settings.load, Steps.run_bind, run_fileLayer]
  unfold settings
  cases machine.fileLayer directory <;> rfl

/-- Loading settings looks at files only, which it may look for from the working directory. -/
theorem settings_congr {machine other : Machine} (hfiles : other.files = machine.files)
    (hdirectory : other.directory = machine.directory) (directory : String)
    (overrides : Overrides) :
    other.settings directory overrides = machine.settings directory overrides := by
  simp only [settings, fileLayer, isFile, contents, directoryPath, hfiles, hdirectory]

/-! ### Getting ready -/

/-- A machine with other notes about a run. -/
def noted (events : List Event) (requests : List Url) (machine : Machine) : Machine :=
  { machine with events := events, requests := requests }

/-- The machine after telling about events. -/
def told (events : List Event) (machine : Machine) : Machine :=
  machine.noted (events.reverse ++ machine.events) machine.requests

/-- The machine on which a run has got ready. -/
def readied (run : Run) (machine : Machine) : Machine :=
  machine.told [.choseWorkers run.selector, .loadedSettings run.settings.directory]

/-- The filters are resolved first; then the settings are loaded, which changes nothing.  Both are
told about. -/
theorem run_prepare (directory : String) (arguments : Arguments) (machine : Machine) :
    (Run.prepare host log directory arguments).run machine
      = match Selector.resolve arguments.filters with
        | .error error => (.error (.report (.usage error)), machine)
        | .ok selector =>
          match machine.settings directory arguments.overrides with
          | .error error => (.error (.settings error), machine.told [.choseWorkers selector])
          | .ok settings => (.ok ⟨settings, selector⟩, machine.readied ⟨settings, selector⟩) := by
  unfold Run.prepare
  cases Selector.resolve arguments.filters with
  | error error => rfl
  | ok selector =>
    have hlog : log (.choseWorkers selector) machine = ((), machine.told [.choseWorkers selector])
      := rfl
    have hsettings : (machine.told [.choseWorkers selector]).settings directory arguments.overrides
        = machine.settings directory arguments.overrides := settings_congr rfl rfl _ _
    dsimp only
    rw [Steps.run_liftM_bind, hlog, Steps.run_bind, Steps.run_adapt, run_load, hsettings]
    cases machine.settings directory arguments.overrides <;> rfl

/-! ### Sources -/

/-- Whether a machine differs from another one in the notes about a run at most. -/
def NotedFrom (before after : Machine) : Prop :=
  ∃ events requests, after = before.noted events requests

theorem keeps_log (before : Machine) (event : Event) :
    Steps.Keeps (NotedFrom before) (log event) := by
  rintro machine ⟨events, requests, rfl⟩
  exact ⟨event :: events, requests, rfl⟩

/-- Reading a file changes nothing. -/
theorem keeps_readText (P : Machine → Prop) (path : String) :
    Steps.Keeps P (host.readText path).run := by
  apply Steps.keeps_bind
  · intro machine h
    exact h
  · intro bytes
    split
    · exact Steps.keeps_pure P _
    · exact Steps.keeps_throw P _

theorem keeps_send (before : Machine) (timeout : Duration) (url : Url) :
    Steps.Keeps (NotedFrom before) (host.send timeout url) := by
  rintro machine ⟨events, requests, rfl⟩
  exact ⟨events, url :: requests, rfl⟩

section

variable {P : Machine → Prop}
  (hlog : ∀ event : Event, event.level ≠ .warn → Steps.Keeps P (log event))

include hlog

theorem keeps_fetch_file (path : String) (query : Query) :
    Steps.Keeps P ((Source.file log host.readText path).fetch query).run := by
  apply Steps.keeps_bind
  · exact Steps.keeps_adapt _ (keeps_readText P path)
  · intro text
    apply Steps.keeps_bind
    · exact Steps.keeps_ofExcept P _
    · intro snapshot
      apply Steps.keeps_bind
      · exact Steps.keeps_liftM (hlog (.loadedSnapshot _ _) nofun)
      · exact fun _ => Steps.keeps_pure P _

variable (hsend : ∀ timeout url, Steps.Keeps P (host.send timeout url))

include hsend

omit hlog in
theorem keeps_ask (timeout : Duration) (url : Url) :
    Steps.Keeps P (url.ask (host.send timeout)).run := by
  unfold Url.ask
  split
  · apply Steps.keeps_bind
    · exact Steps.keeps_liftM (hsend timeout _)
    · intro answer
      cases answer with
      | some response => exact Steps.keeps_pure _ _
      | none => exact Steps.keeps_throw _ _
  · exact Steps.keeps_throw _ _

theorem keeps_fetch_master (timeout : Duration) (master : Url) (query : Query) :
    Steps.Keeps P ((Source.master log (host.send timeout) master).fetch query).run := by
  apply Steps.keeps_bind
  · exact Steps.keeps_ofExcept _ _
  · intro url
    apply Steps.keeps_bind
    · exact Steps.keeps_liftM (hlog (.requestingWorkers _) nofun)
    · intro _
      apply Steps.keeps_bind
      · exact Steps.keeps_adapt _ (keeps_ask hsend timeout url)
      · intro response
        apply Steps.keeps_bind
        · exact Steps.keeps_ofExcept _ _
        · intro workers
          apply Steps.keeps_bind
          · exact Steps.keeps_liftM (hlog (.receivedWorkers _) nofun)
          · exact fun _ => Steps.keeps_pure _ _

/-- Asking the source of a run keeps what requests and events that warn of nothing keep. -/
theorem keeps_fetch (run : Run) : Steps.Keeps P (run.fetch host log).run := by
  unfold Run.fetch Run.source
  -- not every source leaves a machine alone, so the source that is chosen has to be followed
  cases run.settings.snapshot with
  | some path =>
    simp only [bind_assoc, pure_bind]
    apply Steps.keeps_bind
    · exact Steps.keeps_liftM (hlog (.readingSnapshot path) nofun)
    · intro _
      exact Steps.keeps_adapt _ (keeps_fetch_file hlog path run.selector.query)
  | none =>
    simp only [bind_assoc]
    apply Steps.keeps_bind
    · exact Steps.keeps_liftM (hlog (.askingMaster run.settings.masterUrl.text) nofun)
    · intro _
      cases Duration.parse run.settings.timeout with
      | error error => exact Steps.keeps_throw _ (RunError.timeout run.settings.timeout error)
      | ok timeout =>
        simp only [bind_assoc]
        apply Steps.keeps_bind
        · exact Steps.keeps_liftM (fun _ h => h)
        · intro canAsk
          cases canAsk with
          | true =>
            exact Steps.keeps_adapt _ (keeps_fetch_master hlog hsend timeout
              run.settings.masterUrl _)
          | false => exact Steps.keeps_throw _ (RunError.source (.request .cannotSend))

end

/-- Asking the source of a run leaves notes and nothing else. -/
theorem keeps_noted_fetch (before : Machine) (run : Run) :
    Steps.Keeps (NotedFrom before) (run.fetch host log).run :=
  keeps_fetch (fun event _ => keeps_log before event) (keeps_send before) run

/-! ### Delivery and export -/

/-- The sink of a machine does to the output what the output alone would do. -/
theorem mirrors_sink (machine : Machine) :
    sink.Mirrors machine.behaviour (fun output => { machine with output := output }) :=
  ⟨fun _ _ => rfl, fun _ => rfl⟩

theorem run_deliver (text : String) (machine : Machine) :
    (sink.deliver text).run machine = ((Buffer.deliver machine.behaviour text machine.output).1,
      { machine with output := (Buffer.deliver machine.behaviour text machine.output).2 }) :=
  (mirrors_sink machine).run_deliver text machine.output

/-- The bytes of a report's export on a machine. -/
def exportBytes (report : Report) (machine : Machine) : List UInt8 :=
  (report.exported machine.time).pretty.toUTF8.toList

/-- What becomes of a machine that exports the report of a run. -/
def exporting (run : Run) (report : Report) (machine : Machine) : Except RunError Unit × Machine :=
  match run.settings.outputFile with
  | none => (.ok (), machine)
  | some path =>
    match machine.files.write machine.directory path (machine.exportBytes report) with
    | .error error => (.error (.exporting path error), machine)
    | .ok files =>
      (.ok (), { machine with files := files, events := .exported path :: machine.events })

/-- What becomes of a machine once the report of a run is there. -/
def complete (run : Run) (report : Report) (machine : Machine) : Except RunError Report × Machine :=
  match (sink.deliver report.text).run machine with
  | (.error error, machine) => (.error (.report (.output error)), machine)
  | (.ok _, machine) =>
    match exporting run report machine with
    | (.error error, machine) => (.error error, machine)
    | (.ok _, machine) => (.ok report, machine)

/-- An export is logged once the files are changed, in whatever way events are logged. -/
theorem run_exportReport_logging (run : Run) (log : Event → StateM Machine Unit) (report : Report)
    (machine : Machine) :
    (run.exportReport host log report).run machine = match run.settings.outputFile with
      | none => (.ok (), machine)
      | some path =>
        match machine.files.write machine.directory path (machine.exportBytes report) with
        | .error error => (.error (.exporting path error), machine)
        | .ok files => (.ok (), (log (.exported path) { machine with files := files }).2) := by
  unfold Run.exportReport
  cases run.settings.outputFile with
  | none => rfl
  | some path =>
    have hnow : host.now machine = (machine.time, machine) := rfl
    have hbytes : (report.exportText machine.time).toUTF8.toList = machine.exportBytes report := rfl
    have hwrite : (host.write path (machine.exportBytes report)).run machine
        = writeFile path (machine.exportBytes report) machine := rfl
    dsimp only
    rw [Steps.run_liftM_bind, hnow]
    dsimp only
    rw [hbytes, Steps.run_bind, Steps.run_adapt, hwrite, writeFile]
    cases machine.files.write machine.directory path (machine.exportBytes report) <;> rfl

theorem run_exportReport (run : Run) (report : Report) (machine : Machine) :
    (run.exportReport host log report).run machine = machine.exporting run report :=
  run_exportReport_logging run log report machine

theorem logged_generator (source : Source (StateM Machine)) (displayTiers : List String)
    (events : List Event) (machine : Machine) :
    (⟨source, displayTiers, log⟩ : Generator (StateM Machine)).logged events machine
      = machine.told events :=
  Generator.logged_eq ⟨source, displayTiers, log⟩
    (fun events => machine.noted events machine.requests) (fun _ _ => rfl) events machine.events

theorem run_generator (source : Source (StateM Machine)) (displayTiers : List String)
    (selector : Selector) (machine : Machine) :
    ((⟨source, displayTiers, log⟩ : Generator (StateM Machine)).generate selector sink).run machine
      = match (source.fetch selector.query).run machine with
        | (.error error, machine) => (.error (.source error), machine)
        | (.ok workers, machine) =>
          let report := Report.collect displayTiers selector.range workers
          match (sink.deliver report.text).run (machine.told (report.notes workers)) with
          | (.error error, machine) => (.error (.output error), machine)
          | (.ok _, machine) => (.ok report, machine) := by
  rw [Generator.run_generate]
  rcases (source.fetch selector.query).run machine with ⟨error | workers, after⟩
  · rfl
  · let report := Report.collect displayTiers selector.range workers
    dsimp only
    rw [logged_generator]
    rcases (sink.deliver report.text).run (after.told (report.notes workers)) with
      ⟨error | _, delivered⟩ <;> rfl

/-- A run that got ready asks its source, tells about the workers and completes its report. -/
theorem run_generate (run : Run) (machine : Machine) :
    (run.generate host log sink).run machine = match (run.fetch host log).run machine with
      | (.error error, machine) => (.error error, machine)
      | (.ok workers, machine) =>
        complete run (run.report workers) (machine.told ((run.report workers).notes workers)) := by
  -- one stage after the other is run on both sides, until one fails
  rw [Run.generate, Run.fetch, Steps.run_bind, Steps.run_bind]
  rcases (run.source host log).run machine with ⟨error | source, after⟩
  · rfl
  · dsimp only
    rw [Steps.run_bind, Steps.run_adapt, Steps.run_adapt, run_generator]
    rcases (source.fetch run.selector.query).run after with ⟨error | workers, fetched⟩
    · rfl
    · dsimp only [Except.mapError]
      rw [complete, Run.report]
      rcases (sink.deliver _).run (fetched.told _) with ⟨error | _, delivered⟩
      · rfl
      · dsimp only
        rw [Steps.run_bind, run_exportReport]
        rcases delivered.exporting run _ with ⟨error | _, exported⟩ <;> rfl

/-- A whole run. -/
theorem run_eq (directory : String) (arguments : Arguments) (machine : Machine) :
    Machine.run directory arguments machine
      = match (Run.prepare host log directory arguments).run machine with
        | (.error error, machine) => (.error error, machine)
        | (.ok run, machine) => (run.generate host log sink).run machine := by
  show (Run.prepare host log directory arguments >>= fun run => run.generate host log sink).run
    machine = _
  rw [Steps.run_bind]
  rcases (Run.prepare host log directory arguments).run machine with ⟨error | run, after⟩ <;> rfl

end Machine

end ClusterCapacity
