import ClusterCapacity.Proofs.Run.SnapshotFile
import ClusterCapacity.Proofs.Yaml.Reader

/-!
# Snapshots in either format

The compact JSON text of a snapshot with short printable names is also YAML and is read as the same
snapshot there (`formats_agree`).  So a file that holds it answers every query with the same
workers, whatever the extension of its path says about its format.
-/

namespace ClusterCapacity

open Yaml (IsPrintable)

/-- Whether a name is printable ASCII and at most 400 characters long. -/
def IsPlainName (name : String) : Prop :=
  (∀ c ∈ name.toList, IsPrintable c) ∧ name.length ≤ 400

instance : DecidablePred IsPlainName := fun name =>
  haveI : Decidable (∀ c ∈ name.toList, IsPrintable c) := List.decidableBAll _ _
  inferInstanceAs (Decidable (_ ∧ _))

/-- The names of the tiers. -/
def TierMap.names (tiers : TierMap) : List String := tiers.entries.map Prod.fst

/-- The host of a worker and the names of its tiers. -/
def Worker.names (worker : Worker) : List String :=
  worker.host :: (worker.capacityTiers.names ++ worker.usedTiers.names)

/-- The names of all hosts and tiers of a snapshot. -/
def Snapshot.names (snapshot : Snapshot) : List String := snapshot.workers.flatMap Worker.names

/-! ### Texts on one line -/

/-- Escapes at most double the length of a plain name, which then still is short enough for a
key. -/
theorem IsPlainName.isKey {name : String} (h : IsPlainName name) : Json.IsKey name := by
  refine ⟨h.1, ?_⟩
  have hlength := Yaml.length_quoted_le h.1
  have hname := h.2
  omega

theorem TierMap.keepsLine {tiers : TierMap} (h : ∀ name ∈ tiers.names, IsPlainName name) :
    tiers.toJson.KeepsLine := by
  apply Json.KeepsLine.obj
  · intro member hmember
    obtain ⟨entry, hentry, rfl⟩ := List.mem_map.mp hmember
    exact (h entry.1 (List.mem_map_of_mem hentry)).isKey
  · intro member hmember
    obtain ⟨entry, -, rfl⟩ := List.mem_map.mp hmember
    exact .int _

theorem Worker.keepsLine {worker : Worker} (h : ∀ name ∈ worker.names, IsPlainName name) :
    worker.toJson.KeepsLine := by
  obtain ⟨hhost, htiers⟩ := List.forall_mem_cons.mp h
  obtain ⟨hcapacity, hused⟩ := List.forall_mem_append.mp htiers
  apply Json.KeepsLine.obj
  · simp only [List.forall_mem_cons]
    decide
  · simp only [List.forall_mem_cons]
    exact ⟨.str hhost.1, .int _, .int _, .int _, TierMap.keepsLine hcapacity,
      TierMap.keepsLine hused, nofun⟩

theorem Worker.keepsLine_list {workers : List Worker}
    (h : ∀ worker ∈ workers, ∀ name ∈ worker.names, IsPlainName name) :
    (Worker.listToJson workers).KeepsLine := by
  apply Json.KeepsLine.arr
  intro item hitem
  obtain ⟨worker, hworker, rfl⟩ := List.mem_map.mp hitem
  exact Worker.keepsLine (h worker hworker)

theorem Snapshot.keepsLine {snapshot : Snapshot} (h : ∀ name ∈ snapshot.names, IsPlainName name) :
    snapshot.toJson.KeepsLine := by
  have hworkers (worker : Worker) (hworker : worker ∈ snapshot.live ++ snapshot.lost)
      (name : String) (hname : name ∈ worker.names) : IsPlainName name :=
    h name (List.mem_flatMap.mpr ⟨worker, hworker, hname⟩)
  apply Json.KeepsLine.obj
  · simp only [List.forall_mem_cons]
    decide
  · simp only [List.forall_mem_cons]
    exact ⟨Worker.keepsLine_list (fun worker hworker =>
        hworkers worker (List.mem_append_left _ hworker)),
      Worker.keepsLine_list (fun worker hworker =>
        hworkers worker (List.mem_append_right _ hworker)), nofun⟩

/-! ### Both formats -/

/-- Decoding the compact JSON text of a snapshot with plain names as YAML gives the snapshot, so a
file with this text answers with the same workers under every name, and the same is told about
it. -/
theorem formats_agree {snapshot : Snapshot} (hnames : ∀ name ∈ snapshot.names, IsPlainName name) :
    Yaml.decode Snapshot.shape snapshot.toJson.compact = .ok snapshot ∧
    ∀ (selector : Selector) (path : String) (machine : Machine),
      machine.contents path = .ok snapshot.toJson.compact.toUTF8.toList →
      ((Source.file Machine.log Machine.host.readText path).fetch selector.query).run machine
        = (.ok (snapshot.select selector.query), machine.told [snapshot.loaded]) := by
  have hyaml : Yaml.decode Snapshot.shape snapshot.toJson.compact = .ok snapshot :=
    Yaml.decode_compact (Snapshot.reads_shape (R := Yaml.Reader) snapshot)
      (Snapshot.keepsLine hnames)
  have hjson : Json.decode Snapshot.shape snapshot.toJson.compact = .ok snapshot :=
    Json.decode_compact (Snapshot.inverts_shape snapshot)
  refine ⟨hyaml, ?_⟩
  intro selector path machine hread
  apply Machine.run_fetch_of_decode hread
  rw [Snapshot.decode, hyaml, hjson, ite_self]

/-- Names that look like syntax, numbers or nothing in YAML, and the extreme counts. -/
theorem formats_agree_hostile_names :
    let tiers := TierMap.ofList [("- null", Int64.minValue), ("", -1), ("~", 0), ("0x1F", 1)]
    let worker : Worker :=
      ⟨"a\"b\\n: \x7bc\x7d, [d] #e", Int64.maxValue, Int64.minValue, 0, tiers, ∅⟩
    let snapshot : Snapshot := ⟨[], [worker]⟩
    let bytes := snapshot.toJson.compact.toUTF8.toList
    let machine : Machine := {
      files := .directory [("cluster.json", .file bytes), ("cluster.yml", .file bytes)] }
    (∀ name ∈ snapshot.names, IsPlainName name) ∧
      Yaml.decode Snapshot.shape snapshot.toJson.compact = .ok snapshot ∧
      ∀ path ∈ ["cluster.json", "cluster.yml"],
        ((Source.file Machine.log Machine.host.readText path).fetch Selector.lost.query).run machine
          = (.ok [worker], machine.told [.loadedSnapshot 0 1]) := by
  intro tiers worker snapshot bytes machine
  have hnames : ∀ name ∈ snapshot.names, IsPlainName name := by decide
  have hagree := formats_agree hnames
  have hread (path : String) (hpath : path ∈ ["cluster.json", "cluster.yml"])
      (bytes : List UInt8) : (FileNode.directory [("cluster.json", .file bytes),
        ("cluster.yml", .file bytes)]).read [] path = .ok bytes := by
    simp only [List.mem_cons, List.not_mem_nil, or_false] at hpath
    rcases hpath with rfl | rfl <;> rfl
  refine ⟨hnames, hagree.1, ?_⟩
  intro path hpath
  exact hagree.2 .lost path machine (hread path hpath bytes)

end ClusterCapacity
