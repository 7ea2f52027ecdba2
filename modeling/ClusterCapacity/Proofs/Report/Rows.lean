import ClusterCapacity.Proofs.Report.HeartbeatOrder
import ClusterCapacity.Proofs.Run.SnapshotFile
import ClusterCapacity.Session
import Mathlib.Data.List.Forall2

/-!
# The rows of a report

A report has a row for each worker, in the order of their heartbeats and those of equal heartbeat as
they come, and the warnings of a run are about the rows with more used bytes than capacity, in row
order (`Report.collect_rows`).
-/

namespace ClusterCapacity

/-- Whether counts are those that a map holds for the given tiers, zero for a tier that it does not
list. -/
structure TierMap.ShownAs (tiers : TierMap) (displayTiers : List String) (counts : List Int64) :
    Prop where
  length_eq : counts.length = displayTiers.length
  count {index : Nat} {tier : String} (h : displayTiers[index]? = some tier) :
    counts[index]? = some ((tiers.get? tier).getD 0)

/-- Whether a row shows a worker, with a column for each of the given tiers. -/
structure Worker.ShownAs (displayTiers : List String) (worker : Worker) (row : Row) : Prop where
  host : row.host = worker.host
  heartbeat : row.heartbeat = worker.heartbeat
  capacity : row.capacity = worker.capacity
  used : row.used = worker.used
  capacityOnTiers : worker.capacityTiers.ShownAs displayTiers row.capacityOnTiers
  usedOnTiers : worker.usedTiers.ShownAs displayTiers row.usedOnTiers
  usedPercentage : row.usedPercentage = Percentage.used worker.used worker.capacity

/-- The warnings about the rows with more used bytes than capacity, in row order. -/
def Report.warnings (report : Report) : List Event :=
  (report.rows.filter (fun row => row.capacity < row.used)).map
    (fun row => .overuse ⟨row.host, row.used, row.capacity⟩)

/-- Whether an event is a warning. -/
def Event.isWarning (event : Event) : Bool := event.level = .warn

theorem TierMap.shownAs_map (tiers : TierMap) (displayTiers : List String) :
    tiers.ShownAs displayTiers (displayTiers.map tiers.getD) where
  length_eq := List.length_map _
  count h := by rw [List.getElem?_map, h]; rfl

theorem Worker.shownAs_row (displayTiers : List String) (worker : Worker) :
    worker.ShownAs displayTiers (worker.row displayTiers) where
  host := rfl
  heartbeat := rfl
  capacity := rfl
  used := rfl
  capacityOnTiers := worker.capacityTiers.shownAs_map displayTiers
  usedOnTiers := worker.usedTiers.shownAs_map displayTiers
  usedPercentage := rfl

namespace Report

/-- Overuse is found row by row. -/
theorem map_overuses (displayTiers : List String) (range : Range) (workers : List Worker) :
    (overuses workers).map Event.overuse = (collect displayTiers range workers).warnings := by
  rw [overuses, warnings, collect]
  induction ordered workers with
  | nil => rfl
  | cons worker rest ih =>
    by_cases h : worker.capacity < worker.used
    · simpa [Worker.overuse?, Worker.row, h] using ih
    · simpa [Worker.overuse?, Worker.row, h] using ih

/-- Of what is told about the collection of a report only the warnings about rows are warnings. -/
theorem filter_isWarning_notes (displayTiers : List String) (range : Range)
    (workers : List Worker) :
    ((collect displayTiers range workers).notes workers).filter Event.isWarning
      = (collect displayTiers range workers).warnings := by
  have hall : (collect displayTiers range workers).warnings.filter Event.isWarning
      = (collect displayTiers range workers).warnings := by
    rw [List.filter_eq_self, warnings, List.forall_mem_map]
    exact fun _ _ => rfl
  have hfetched (count : Nat) (range : Range) :
      (Event.fetchedWorkers count range).isWarning = false := rfl
  have hcollected (count tiers : Nat) (capacity used : Int64) :
      (Event.collectedWorkers count tiers capacity used).isWarning = false := rfl
  simp only [notes, List.cons_append, List.filter_cons, List.filter_append, hfetched, hcollected,
    Bool.false_eq_true, ↓reduceIte, List.filter_nil, List.append_nil]
  rw [map_overuses displayTiers range, hall]

end Report

/-! ### The warnings of a whole run -/

namespace Machine

/-- The warnings among the events of a machine. -/
def warnings (machine : Machine) : List Event := machine.events.filter Event.isWarning

/-- The source of a run warns of nothing. -/
theorem warnings_run_fetch (run : Run) (machine : Machine) :
    ((run.fetch host log).run machine).2.warnings = machine.warnings := by
  have hkeeps : Steps.Keeps (fun after => after.warnings = machine.warnings)
      (run.fetch host log).run := by
    refine keeps_fetch (fun event hlevel after h => ?_) (fun _ _ _ h => h) run
    have hquiet : event.isWarning = false := by simp [Event.isWarning, hlevel]
    show (event :: after.events).filter Event.isWarning = machine.warnings
    rw [List.filter_cons_of_neg (Bool.eq_false_iff.mp hquiet)]
    exact h
  exact hkeeps machine rfl

/-- An export warns of nothing. -/
theorem warnings_exporting (run : Run) (report : Report) (machine : Machine) :
    (machine.exporting run report).2.warnings = machine.warnings := by
  unfold exporting
  split
  · rfl
  · split <;> rfl

/-- What comes after the workers of a run warns of nothing. -/
theorem warnings_complete (run : Run) (report : Report) (machine : Machine) :
    (complete run report machine).2.warnings = machine.warnings := by
  rw [complete, run_deliver]
  rcases Buffer.deliver machine.behaviour report.text machine.output with ⟨error | _, output⟩
  · rfl
  · have hexporting := warnings_exporting run report { machine with output := output }
    dsimp only
    generalize exporting run report { machine with output := output } = exported at hexporting ⊢
    obtain ⟨error | _, after⟩ := exported <;> exact hexporting

theorem warnings_noted (events : List Event) (machine : Machine) :
    (machine.noted (events ++ machine.events) machine.requests).warnings
      = events.filter Event.isWarning ++ machine.warnings :=
  List.filter_append ..

/-- A run that has its workers warns of the rows of their report and of nothing else. -/
theorem warnings_run {directory : String} {arguments : Arguments} {before : Machine} {run : Run}
    {workers : List Worker} (hrun : before.prepared directory arguments = .ok run)
    (h : before.fetched run = .ok workers) :
    (Machine.run directory arguments before).2.warnings
      = (run.report workers).warnings.reverse ++ before.warnings := by
  have hfetch := warnings_run_fetch run (before.readied run)
  rw [run_of_prepared hrun, run_generate]
  unfold fetched at h
  rcases hresult : (run.fetch host log).run (before.readied run) with ⟨result, after⟩
  rw [hresult] at h hfetch
  obtain rfl : result = .ok workers := h
  dsimp only at hfetch ⊢
  rw [warnings_complete, told, warnings_noted, List.filter_reverse, Run.report,
    Report.filter_isWarning_notes, hfetch]
  rfl

end Machine

/-! ### The rows and their warnings -/

/-- The rows of a report are the workers in the stable order of their heartbeats, whatever tiers are
shown; whatever reports are made from, the warnings about the rows are told one after the other
among other notes, and these are all warnings of a run. -/
theorem Report.collect_rows (displayTiers : List String) (selector : Selector)
    (workers : List Worker) :
    let report := Report.collect displayTiers selector.range workers
    (∃ scan, Worker.HeartbeatOrder workers scan ∧ scan.Perm workers ∧
      List.Forall₂ (Worker.ShownAs displayTiers) scan report.rows ∧
      report.rows.length = workers.length) ∧
    (∀ {σ : Type} (source : Source (StateM σ)) (log : Event → StateM σ Unit) (state fetched : σ),
      (source.fetch selector.query).run state = (.ok workers, fetched) → ∃ notes : List Event,
      ((⟨source, displayTiers, log⟩ : Generator (StateM σ)).collect selector).run state
        = (.ok report, notes.foldl (fun state event => (log event state).2) fetched) ∧
      notes.filter Event.isWarning = report.warnings) ∧
    ∀ (directory : String) (arguments : Arguments) (settings : Settings) (before : Machine),
      settings.displayTiers = displayTiers →
      before.prepared directory arguments = .ok ⟨settings, selector⟩ →
      before.fetched ⟨settings, selector⟩ = .ok workers →
      (Machine.run directory arguments before).2.warnings
        = report.warnings.reverse ++ before.warnings := by
  intro report
  have hrows : List.Forall₂ (Worker.ShownAs displayTiers) (ordered workers) report.rows := by
    show List.Forall₂ _ _ ((ordered workers).map (Worker.row displayTiers))
    rw [List.forall₂_map_right_iff, List.forall₂_same]
    exact fun worker _ => worker.shownAs_row displayTiers
  refine ⟨⟨ordered workers, heartbeatOrder_ordered workers, ordered_perm workers, hrows, ?_⟩,
    ?_, ?_⟩
  · rw [← hrows.length_eq, (ordered_perm workers).length_eq]
  · intro σ source log state fetched hfetch
    rw [Generator.run_collect, hfetch]
    exact ⟨report.notes workers, rfl, filter_isWarning_notes _ _ _⟩
  · rintro directory arguments settings before rfl hrun hworkers
    exact Machine.warnings_run hrun hworkers

/-- Workers of equal heartbeat, one that has not been heard of yet, overuse, and tiers that are
shown twice or that no worker has; and a run on a file with these workers. -/
theorem Report.collect_rows_ties :
    let tiers := ["MEM", "SSD", "MEM"]
    let full : Worker := ⟨"a", 0, 5, 9, TierMap.ofList [("MEM", 5)], ∅⟩
    let early : Worker := ⟨"b", -1, 0, 0, ∅, ∅⟩
    let tied : Worker := ⟨"c", 0, -8, -2, ∅, TierMap.ofList [("HDD", -2)]⟩
    let overuses : List Event := [.overuse ⟨"a", 9, 5⟩, .overuse ⟨"c", -2, -8⟩]
    let world : Session.World := { memory := { workers := [full, early, tied] } }
    let snapshot : Snapshot := ⟨[full, early, tied], []⟩
    let holding (text : String) : Machine :=
      { files := .directory [("cluster.json", .file text.toUTF8.toList)] }
    (∃ report after,
      ((⟨Session.source, tiers, Session.log⟩ : Generator (StateM Session.World)).collect
        .all).run world = (.ok report, after) ∧
      report.rows = [early.row tiers, full.row tiers, tied.row tiers] ∧
      (full.row tiers).capacityOnTiers = [5, 0, 5] ∧
      report.warnings = overuses) ∧
    (Machine.run "conf" { snapshot := some "cluster.json" }
      (holding snapshot.toJson.compact)).2.warnings = overuses.reverse := by
  intro tiers full early tied overuses world snapshot holding
  have hfetch : (Session.source.fetch Selector.all.query).run world
      = (.ok [full, early, tied], { world with memory := { world.memory with
          asked := [Selector.all.query] } }) := rfl
  obtain ⟨notes, hcollect, -⟩ := (Report.collect_rows tiers .all [full, early, tied]).2.1
    Session.source Session.log _ _ hfetch
  have horder : Report.ordered [full, early, tied] = [early, full, tied] := by
    refine (heartbeatOrder_ordered _).unique ⟨by decide, fun heartbeat => ?_⟩
    by_cases hzero : heartbeat = 0
    · subst hzero
      rfl
    · simp [Worker.ofHeartbeat, List.filter_cons, full, Ne.symm hzero]
  have hrows (displayTiers : List String) :
      (Report.collect displayTiers Selector.all.range [full, early, tied]).rows
        = [early, full, tied].map (Worker.row displayTiers) := by
    rw [Report.collect, horder]
  have hwarnings (displayTiers : List String) :
      (Report.collect displayTiers Selector.all.range [full, early, tied]).warnings = overuses := by
    rw [Report.warnings, hrows]
    rfl
  refine ⟨⟨_, _, hcollect, hrows tiers, by decide +kernel, hwarnings tiers⟩, ?_⟩
  let settings : Settings := {
    directory := "conf"
    masterUrl := ⟨"http".toList, some ⟨none, .name "localhost".toList, some 19999⟩,
      .segments [[]], none, none⟩
    snapshot := some "cluster.json"
    timeout := "30s"
    displayTiers := defaultDisplayTiers
    outputFile := none }
  let run : Run := ⟨settings, .all⟩
  have hrun {text : String} (hstored : snapshot.StoredAs text) : (Machine.run "conf"
      { snapshot := some "cluster.json" } (holding text)).2.warnings = overuses.reverse := by
    have hprepared : (holding text).prepared "conf" { snapshot := some "cluster.json" } = .ok run :=
      rfl
    have hsnapshot : run.settings.snapshot = some "cluster.json" := rfl
    have hcontents : ((holding text).readied run).contents "cluster.json"
        = .ok text.toUTF8.toList := rfl
    have hfetched : (holding text).fetched run = .ok [full, early, tied] :=
      congrArg Prod.fst (Machine.run_fetch_snapshot hsnapshot (by decide) hcontents hstored)
    rw [(Report.collect_rows defaultDisplayTiers .all [full, early, tied]).2.2 "conf" _ settings
      (holding text) rfl hprepared hfetched, hwarnings]
    rfl
  exact hrun .compact

end ClusterCapacity
