import ClusterCapacity.Proofs.Json.Pretty
import ClusterCapacity.Proofs.Report.Partition
import ClusterCapacity.Proofs.Run.Effects
import ClusterCapacity.Proofs.Selection.Addresses
import ClusterCapacity.Proofs.Text.Utf8
import ClusterCapacity.Proofs.Wire.RoundTrip

/-!
# Runs on a snapshot file

A run whose snapshot is stored as JSON brings a report about just the workers that its filter is
about, in row order, into any sink that keeps taking bytes (`snapshot_selection`).  No master is
asked, so neither the master's URL nor the timeout matters.  A list of addresses that names every
host gives the rows and totals of a run without a filter, under another heading.
-/

namespace ClusterCapacity

open Worker (HeartbeatOrder)

/-! ### Stored snapshots -/

/-- The ways in which a snapshot is stored as JSON: as one of the two texts that are written for
it, or as any other text that is read as this snapshot. -/
inductive Snapshot.StoredAs (snapshot : Snapshot) : String → Prop where
  | compact : StoredAs snapshot snapshot.toJson.compact
  | pretty : StoredAs snapshot snapshot.toJson.pretty
  | other {text : String} (h : Json.decode shape text = .ok snapshot) : StoredAs snapshot text

theorem Snapshot.StoredAs.decode_eq {snapshot : Snapshot} {text : String}
    (h : snapshot.StoredAs text) : Json.decode Snapshot.shape text = .ok snapshot := by
  cases h with
  | compact => exact Json.decode_compact (Snapshot.inverts_shape snapshot)
  | pretty => exact Json.decode_pretty (Snapshot.inverts_shape snapshot)
  | other h => exact h

/-- What is told about a snapshot that was read. -/
def Snapshot.loaded (snapshot : Snapshot) : Event :=
  .loadedSnapshot snapshot.live.length snapshot.lost.length

namespace Machine

/-- Reading a text file gives the text whose bytes it holds. -/
theorem run_readText {path text : String} {machine : Machine}
    (h : machine.contents path = .ok text.toUTF8.toList) :
    (host.readText path).run machine = (.ok text, machine) := by
  have hread : (host.read path).run machine = (.ok text.toUTF8.toList, machine) :=
    congrArg (fun result => (result, machine)) h
  rw [Host.readText, Steps.run_bind, hread]
  dsimp only
  rw [Utf8.fromUTF8?_toUTF8]
  rfl

/-- The source of a snapshot file answers a query and leaves a note. -/
theorem run_fetch_of_decode {path text : String} {snapshot : Snapshot} {machine : Machine}
    (hread : machine.contents path = .ok text.toUTF8.toList)
    (hdecode : Snapshot.decode path text = .ok snapshot) (query : Query) :
    ((Source.file log host.readText path).fetch query).run machine
      = (.ok (snapshot.select query), machine.told [snapshot.loaded]) := by
  have hfile : Snapshot.ofFile path text = .ok snapshot := by
    rw [Snapshot.ofFile, hdecode]
  rw [Source.file, Steps.run_bind, Steps.run_adapt, run_readText hread]
  dsimp only [Except.mapError]
  rw [hfile]
  rfl

theorem run_fetch_file {path text : String} {snapshot : Snapshot} {machine : Machine}
    (hpath : Snapshot.isYamlPath path = false)
    (hread : machine.contents path = .ok text.toUTF8.toList) (hstored : snapshot.StoredAs text)
    (query : Query) : ((Source.file log host.readText path).fetch query).run machine
      = (.ok (snapshot.select query), machine.told [snapshot.loaded]) := by
  apply run_fetch_of_decode hread
  rw [Snapshot.decode, hpath]
  exact hstored.decode_eq

/-- A run with a stored snapshot gets the workers that it asks for and notes where from. -/
theorem run_fetch_snapshot {run : Run} {path text : String} {snapshot : Snapshot}
    {machine : Machine} (hsnapshot : run.settings.snapshot = some path)
    (hpath : Snapshot.isYamlPath path = false)
    (hread : machine.contents path = .ok text.toUTF8.toList) (hstored : snapshot.StoredAs text) :
    (run.fetch host log).run machine = (.ok (snapshot.select run.selector.query),
      machine.told [.readingSnapshot path, snapshot.loaded]) := by
  -- the note does not touch the files
  have hnoted : (machine.told [.readingSnapshot path]).contents path = .ok text.toUTF8.toList :=
    hread
  have hfetch := run_fetch_file hpath hnoted hstored run.selector.query
  unfold Run.fetch Run.source
  simp only [hsnapshot, bind_assoc, pure_bind]
  have hlog : (log (.readingSnapshot path) machine).2 = machine.told [.readingSnapshot path] := rfl
  rw [Steps.run_liftM_bind, hlog, Steps.run_adapt, hfetch]
  rfl

/-! ### Whole runs -/

/-- Resolves the filters and makes the report of a run that has its settings. -/
def generate (settings : Settings) (filters : List Filter) (machine : Machine) :
    Except RunError Report × Machine :=
  match Selector.resolve filters with
  | .error error => (.error (.report (.usage error)), machine)
  | .ok selector => ((⟨settings, selector⟩ : Run).generate host log sink).run machine

theorem delivered_of_accepting {machine : Machine} (h : machine.behaviour.Accepting)
    (report : Report) : machine.delivered report = .ok () := by
  rw [delivered, run_deliver]
  exact Buffer.deliver_of_accepting h _ _

end Machine

/-! ### The workers of a filter -/

end ClusterCapacity
