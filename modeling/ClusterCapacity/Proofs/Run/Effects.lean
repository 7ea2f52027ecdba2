import ClusterCapacity.Proofs.Files
import ClusterCapacity.Proofs.Json.Sorted
import ClusterCapacity.Proofs.Run.Stages
import ClusterCapacity.Proofs.Selection.Filters

/-!
# The effects of a run

What a run leaves behind, for every way in which it can end (`Machine.run_effects`).  A run that
fails before it has its workers writes and exports nothing; one that cannot write its text exports
nothing; one that cannot export has written the whole text; and one that succeeds has written its
text and exported its summary.
-/

namespace ClusterCapacity

/-! ### Filters -/

/-- The number of filters that are given. -/
def Arguments.filterCount (arguments : Arguments) : Nat :=
  arguments.live.toNat + arguments.lost.toNat + arguments.workers.isSome.toNat

theorem Arguments.length_filters (arguments : Arguments) :
    arguments.filters.length = arguments.filterCount := by
  unfold filters filterCount
  cases arguments.live <;> cases arguments.lost <;> cases arguments.workers <;> rfl

/-! ### The exported document -/

/-- The exported document is the summary and the time of its export. -/
theorem Report.without_exported (report : Report) (time : String) :
    (report.exported time).without "generatedAt" = report.summary :=
  Json.without_sorted_obj (.str time) (by simp [summaryMembers]) rfl

namespace Machine

/-! ### The stages in a run -/

/-- What getting a run ready brings on a machine. -/
def prepared (directory : String) (arguments : Arguments) (machine : Machine) :
    Except RunError Run :=
  ((Run.prepare host log directory arguments).run machine).1

/-- What the source of a run brings on a machine on which the run gets ready. -/
def fetched (run : Run) (machine : Machine) : Except RunError (List Worker) :=
  ((run.fetch host log).run (machine.readied run)).1

/-- What delivering the text of a report brings on a machine. -/
def delivered (report : Report) (machine : Machine) : Except IoError Unit :=
  ((sink.deliver report.text).run machine).1

variable {directory : String} {arguments : Arguments} {before : Machine}

theorem run_prepare_of_prepared {run : Run} (h : before.prepared directory arguments = .ok run) :
    (Run.prepare host log directory arguments).run before = (.ok run, before.readied run) := by
  unfold prepared at h
  rw [run_prepare] at h ⊢
  cases hselector : Selector.resolve arguments.filters with
  | error error =>
    rw [hselector] at h
    exact absurd h nofun
  | ok selector =>
    cases hsettings : before.settings directory arguments.overrides with
    | error error =>
      simp only [hselector, hsettings] at h
      exact absurd h nofun
    | ok settings =>
      simp only [hselector, hsettings] at h
      obtain rfl := Except.ok.inj h
      rfl

theorem run_of_prepared {run : Run} (h : before.prepared directory arguments = .ok run) :
    Machine.run directory arguments before
      = (run.generate host log sink).run (before.readied run) := by
  rw [run_eq, run_prepare_of_prepared h]

/-- What cannot get ready ends at once and leaves a note at most. -/
theorem run_of_unprepared {error : RunError}
    (h : before.prepared directory arguments = .error error) : ∃ events,
    Machine.run directory arguments before = (.error error, before.noted events before.requests)
    := by
  unfold prepared at h
  rw [run_eq]
  rw [run_prepare] at h ⊢
  cases hselector : Selector.resolve arguments.filters with
  | error usage =>
    rw [hselector] at h
    obtain rfl := Except.error.inj h
    exact ⟨before.events, rfl⟩
  | ok selector =>
    cases hsettings : before.settings directory arguments.overrides with
    | error fault =>
      simp only [hselector, hsettings] at h
      obtain rfl := Except.error.inj h
      exact ⟨_, rfl⟩
    | ok settings =>
      simp only [hselector, hsettings] at h
      exact absurd h nofun

/-- Asking the source leaves notes only. -/
theorem exists_run_fetch (run : Run) (machine : Machine) : ∃ events requests,
    (run.fetch host log).run (machine.readied run)
      = (machine.fetched run, machine.noted events requests) := by
  obtain ⟨events, requests, hafter⟩ :=
    keeps_noted_fetch machine run (machine.readied run) ⟨_, _, rfl⟩
  exact ⟨events, requests, Prod.ext rfl hafter⟩

/-- Without workers a run ends at once. -/
theorem run_of_unfetched {run : Run} {error : RunError}
    (hrun : before.prepared directory arguments = .ok run)
    (h : before.fetched run = .error error) : ∃ events requests,
    Machine.run directory arguments before = (.error error, before.noted events requests) := by
  obtain ⟨events, requests, hfetch⟩ := exists_run_fetch run before
  refine ⟨events, requests, ?_⟩
  rw [run_of_prepared hrun, run_generate, hfetch, h]

/-- With its workers a run goes on to complete its report. -/
theorem run_of_fetched {run : Run} {workers : List Worker}
    (hrun : before.prepared directory arguments = .ok run)
    (h : before.fetched run = .ok workers) : ∃ events requests,
    Machine.run directory arguments before
      = complete run (run.report workers) (before.noted events requests) := by
  obtain ⟨events, requests, hfetch⟩ := exists_run_fetch run before
  -- to the notes of the source come those about the workers
  refine ⟨((run.report workers).notes workers).reverse ++ events, requests, ?_⟩
  rw [run_of_prepared hrun, run_generate, hfetch, h]
  rfl

/-! ### Completing a report -/

/-- The output of a machine after the delivery of a report's text. -/
def outputWith (report : Report) (machine : Machine) : Buffer :=
  ((sink.deliver report.text).run machine).2.output

/-- A machine with other notes after the delivery of a report's text. -/
def written (report : Report) (events : List Event) (requests : List Url) (machine : Machine) :
    Machine :=
  { machine.noted events requests with output := machine.outputWith report }

/-- A delivery does not look at notes and changes the output only. -/
theorem run_deliver_noted (report : Report) (events : List Event) (requests : List Url)
    (machine : Machine) :
    (sink.deliver report.text).run (machine.noted events requests)
      = (machine.delivered report, machine.written report events requests) := by
  rw [delivered, written, outputWith, run_deliver, run_deliver]
  rfl

/-- After a delivery that did not fail the whole text has been added to the output. -/
theorem contents_outputWith {report : Report} {machine : Machine}
    (h : machine.delivered report = .ok ()) :
    (machine.outputWith report).contents
      = machine.output.contents ++ report.text.toUTF8.toList := by
  rw [delivered, run_deliver] at h
  rw [outputWith, run_deliver]
  obtain ⟨taken, left, hsplit, hcontents, hok⟩ :=
    Buffer.deliver_spec machine.behaviour report.text machine.output
  obtain ⟨rfl, -⟩ := hok.mp h
  rw [hsplit, List.append_nil]
  exact hcontents

variable {run : Run} {report : Report} {events : List Event} {requests : List Url}

theorem complete_of_undelivered {error : IoError} (h : before.delivered report = .error error) :
    complete run report (before.noted events requests)
      = (.error (.report (.output error)), before.written report events requests) := by
  rw [complete, run_deliver_noted, h]

theorem exporting_without_file {machine : Machine} (hfile : run.settings.outputFile = none) :
    machine.exporting run report = (.ok (), machine) := by
  simp only [exporting, hfile]

theorem exporting_of_unwritten {machine : Machine} {path : String} {error : IoError}
    (hfile : run.settings.outputFile = some path)
    (h : machine.files.write machine.directory path (machine.exportBytes report) = .error error) :
    machine.exporting run report = (.error (.exporting path error), machine) := by
  simp only [exporting, hfile, h]

theorem exporting_of_written {machine : Machine} {path : String} {files : FileNode}
    (hfile : run.settings.outputFile = some path)
    (h : machine.files.write machine.directory path (machine.exportBytes report) = .ok files) :
    machine.exporting run report = (.ok (),
      { machine with files := files, events := .exported path :: machine.events }) := by
  simp only [exporting, hfile, h]

theorem complete_without_file (h : before.delivered report = .ok ())
    (hfile : run.settings.outputFile = none) :
    complete run report (before.noted events requests)
      = (.ok report, before.written report events requests) := by
  rw [complete, run_deliver_noted, h]
  dsimp only
  rw [exporting_without_file hfile]

theorem complete_of_unwritten {path : String} {error : IoError}
    (h : before.delivered report = .ok ()) (hfile : run.settings.outputFile = some path)
    (hwrite : before.files.write before.directory path (before.exportBytes report) = .error error) :
    complete run report (before.noted events requests)
      = (.error (.exporting path error), before.written report events requests) := by
  have hafter : (before.written report events requests).files.write before.directory path
      ((before.written report events requests).exportBytes report) = .error error := hwrite
  rw [complete, run_deliver_noted, h]
  dsimp only
  rw [exporting_of_unwritten hfile hafter]

theorem complete_of_written {path : String} {files : FileNode}
    (h : before.delivered report = .ok ()) (hfile : run.settings.outputFile = some path)
    (hwrite : before.files.write before.directory path (before.exportBytes report) = .ok files) :
    complete run report (before.noted events requests) = (.ok report,
      { before.written report (.exported path :: events) requests with files := files }) := by
  have hafter : (before.written report events requests).files.write before.directory path
      ((before.written report events requests).exportBytes report) = .ok files := hwrite
  rw [complete, run_deliver_noted, h]
  dsimp only
  rw [exporting_of_written hfile hafter]
  rfl

/-! ### Whole runs -/

/-- What a run leaves behind: `before` and `after` are the machine before and after the run, and
`result` is what the run brought. -/
structure RunEffects (directory : String) (arguments : Arguments) (before : Machine)
    (result : Except RunError Report) (after : Machine) : Prop where
  /-- Two filters end a run before anything is looked at, whatever the machine holds. -/
  conflict : 2 ≤ arguments.filterCount →
    (Run.prepare host log directory arguments).run before
      = (.error (.report (.usage .tooManyFilters)), before) ∧
    result = .error (.report (.usage .tooManyFilters)) ∧ after = before
  /-- Settings that cannot be loaded end a run with nothing done; the choice of workers is told. -/
  settings : ∀ error, arguments.filterCount < 2 →
    ((Settings.load host directory arguments.overrides).run before).1 = .error error →
    result = .error (.settings error) ∧
    ∃ selector, Selector.resolve arguments.filters = .ok selector ∧
      after = before.told [.choseWorkers selector]
  /-- A timeout that cannot be read ends a run that would ask a master. -/
  timeout : ∀ run error, before.prepared directory arguments = .ok run →
    run.settings.snapshot = none → Duration.parse run.settings.timeout = .error error →
    result = .error (.timeout run.settings.timeout error) ∧
    after.output = before.output ∧ after.files = before.files
  /-- A source that fails ends a run before anything is written or exported. -/
  fetch : ∀ run error, before.prepared directory arguments = .ok run →
    before.fetched run = .error error →
    result = .error error ∧ after.output = before.output ∧ after.files = before.files
  /-- A sink that fails, in writing or in flushing, ends a run before anything is exported. -/
  delivery : ∀ run workers error, before.prepared directory arguments = .ok run →
    before.fetched run = .ok workers →
    before.delivered (run.report workers) = .error error →
    result = .error (.report (.output error)) ∧ after.files = before.files
  /-- An export that fails leaves the whole text in the sink. -/
  exporting : ∀ run workers path error, before.prepared directory arguments = .ok run →
    before.fetched run = .ok workers → before.delivered (run.report workers) = .ok () →
    run.settings.outputFile = some path →
    before.files.write before.directory path (before.exportBytes (run.report workers))
      = .error error →
    result = .error (.exporting path error) ∧ after.files = before.files ∧
    after.output.contents
      = before.output.contents ++ (run.report workers).text.toUTF8.toList
  /-- A run in which nothing fails brings its report. -/
  complete : ∀ run workers, before.prepared directory arguments = .ok run →
    before.fetched run = .ok workers → before.delivered (run.report workers) = .ok () →
    (∀ path, run.settings.outputFile = some path → ∃ files,
      before.files.write before.directory path (before.exportBytes (run.report workers))
        = .ok files) →
    result = .ok (run.report workers)
  /-- A report that is brought has been written as a whole, and exported if the settings say so. -/
  success : ∀ report, result = .ok report → ∃ run, before.prepared directory arguments = .ok run ∧
    after.output.contents = before.output.contents ++ report.text.toUTF8.toList ∧
    (run.settings.outputFile = none → after.files = before.files) ∧
    ∀ path, run.settings.outputFile = some path →
      before.files.write before.directory path (before.exportBytes report) = .ok after.files ∧
      after.contents path = .ok (before.exportBytes report) ∧
      (report.exported before.time).without "generatedAt" = report.summary

/-- A run that brings a report has passed every stage. -/
theorem exists_of_run_ok {report : Report}
    (h : (Machine.run directory arguments before).1 = .ok report) :
    ∃ run workers, before.prepared directory arguments = .ok run ∧
      before.fetched run = .ok workers ∧ report = run.report workers ∧
      before.delivered report = .ok () ∧
      ∀ path, run.settings.outputFile = some path → ∃ files,
        before.files.write before.directory path (before.exportBytes report) = .ok files := by
  cases hrun : before.prepared directory arguments with
  | error error =>
    obtain ⟨events, heq⟩ := run_of_unprepared hrun
    rw [heq] at h
    exact absurd h nofun
  | ok run =>
    cases hfetch : before.fetched run with
    | error error =>
      obtain ⟨events, requests, heq⟩ := run_of_unfetched hrun hfetch
      rw [heq] at h
      exact absurd h nofun
    | ok workers =>
      obtain ⟨events, requests, heq⟩ := run_of_fetched hrun hfetch
      rw [heq] at h
      refine ⟨run, workers, rfl, hfetch, ?_⟩
      cases hdeliver : before.delivered (run.report workers) with
      | error error =>
        rw [complete_of_undelivered hdeliver] at h
        exact absurd h nofun
      | ok _ =>
        cases hfile : run.settings.outputFile with
        | none =>
          rw [complete_without_file hdeliver hfile] at h
          obtain rfl := Except.ok.inj h
          exact ⟨rfl, hdeliver, nofun⟩
        | some path =>
          cases hwrite : before.files.write before.directory path
            (before.exportBytes (run.report workers)) with
          | error error =>
            rw [complete_of_unwritten hdeliver hfile hwrite] at h
            exact absurd h nofun
          | ok files =>
            rw [complete_of_written hdeliver hfile hwrite] at h
            obtain rfl := Except.ok.inj h
            refine ⟨rfl, hdeliver, ?_⟩
            intro other hother
            obtain rfl := Option.some.inj hother
            exact ⟨files, hwrite⟩

theorem fetched_of_bad_timeout {run : Run} {error : DurationError}
    (hsnapshot : run.settings.snapshot = none)
    (h : Duration.parse run.settings.timeout = .error error) (machine : Machine) :
    machine.fetched run = .error (.timeout run.settings.timeout error) := by
  unfold fetched Run.fetch Run.source
  simp only [hsnapshot, h]
  rfl

/-- Every run has these effects: they are ordered, and none is half done. -/
theorem run_effects (directory : String) (arguments : Arguments) (before : Machine) :
    RunEffects directory arguments before (Machine.run directory arguments before).1
      (Machine.run directory arguments before).2 where
  conflict := by
    intro hcount
    rw [← Arguments.length_filters] at hcount
    have hprepare : (Run.prepare host log directory arguments).run before
        = (.error (.report (.usage .tooManyFilters)), before) := by
      rw [run_prepare, Selector.resolve_of_two hcount]
    rw [run_eq, hprepare]
    exact ⟨rfl, rfl, rfl⟩
  settings := by
    intro error hcount hload
    rw [← Arguments.length_filters] at hcount
    obtain ⟨selector, hselector⟩ := Selector.exists_resolve hcount
    have hsettings : before.settings directory arguments.overrides = .error error := by
      rwa [run_load] at hload
    have hprepare : (Run.prepare host log directory arguments).run before
        = (.error (.settings error), before.told [.choseWorkers selector]) := by
      simp only [run_prepare, hselector, hsettings]
    rw [run_eq, hprepare]
    exact ⟨rfl, selector, hselector, rfl⟩
  timeout := by
    intro run error hrun hsnapshot htimeout
    have hfetch := fetched_of_bad_timeout hsnapshot htimeout before
    obtain ⟨events, requests, heq⟩ := run_of_unfetched hrun hfetch
    rw [heq]
    exact ⟨rfl, rfl, rfl⟩
  fetch := by
    intro run error hrun hfetch
    obtain ⟨events, requests, heq⟩ := run_of_unfetched hrun hfetch
    rw [heq]
    exact ⟨rfl, rfl, rfl⟩
  delivery := by
    intro run workers error hrun hfetch hdeliver
    obtain ⟨events, requests, heq⟩ := run_of_fetched hrun hfetch
    rw [heq, complete_of_undelivered hdeliver]
    exact ⟨rfl, rfl⟩
  exporting := by
    intro run workers path error hrun hfetch hdeliver hfile hwrite
    obtain ⟨events, requests, heq⟩ := run_of_fetched hrun hfetch
    rw [heq, complete_of_unwritten hdeliver hfile hwrite]
    exact ⟨rfl, rfl, contents_outputWith hdeliver⟩
  complete := by
    intro run workers hrun hfetch hdeliver hwritable
    obtain ⟨events, requests, heq⟩ := run_of_fetched hrun hfetch
    rw [heq]
    cases hfile : run.settings.outputFile with
    | none => rw [complete_without_file hdeliver hfile]
    | some path =>
      obtain ⟨files, hwrite⟩ := hwritable path hfile
      rw [complete_of_written hdeliver hfile hwrite]
  success := by
    intro report hreport
    obtain ⟨run, workers, hrun, hfetch, rfl, hdeliver, hwritable⟩ := exists_of_run_ok hreport
    obtain ⟨events, requests, heq⟩ := run_of_fetched hrun hfetch
    refine ⟨run, hrun, ?_⟩
    rw [heq]
    cases hfile : run.settings.outputFile with
    | none =>
      rw [complete_without_file hdeliver hfile]
      exact ⟨contents_outputWith hdeliver, fun _ => rfl, nofun⟩
    | some path =>
      obtain ⟨files, hwrite⟩ := hwritable path hfile
      rw [complete_of_written hdeliver hfile hwrite]
      -- the export is read back from the files of the machine after the run
      refine ⟨contents_outputWith hdeliver, nofun, ?_⟩
      intro other hother
      obtain rfl := Option.some.inj hother
      exact ⟨hwrite, FileNode.read_write hwrite, Report.without_exported _ _⟩

end Machine

end ClusterCapacity
