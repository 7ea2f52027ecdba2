import ClusterCapacity.Proofs.Report.Totals

/-!
# Reports over the parts of a cluster

When the workers of a cluster are split into two groups, the reports over the groups add up to the
report over the whole (`partition_reports`): numbers are added with wrapping, a tier is listed if
one of the groups lists it, and each row is in one of the two reports.  This holds of any split
(`Report.splits_collect`); the live and the lost workers are one, and two sets of addresses without
a common address that cover all workers are another (`filter_hosts_perm`).
-/

namespace ClusterCapacity

open Worker (sumOf reported)

/-- The report over the workers of a snapshot that are chosen. -/
def Snapshot.report (snapshot : Snapshot) (displayTiers : List String) (selector : Selector) :
    Report :=
  Report.collect displayTiers selector.range (snapshot.select selector.query)

/-! ### Tiers of two parts -/

/-- A tier map that lists the tiers of two parts and what they add up to. -/
structure TierMap.Combines (whole left right : TierMap) : Prop where
  mem_iff : ∀ tier, tier ∈ whole.tiers ↔ tier ∈ left.tiers ∨ tier ∈ right.tiers
  get?_eq : ∀ tier ∈ whole.tiers, whole.get? tier = some (left.getD tier + right.getD tier)

/-- The pairs of the whole are those of the parts in some order. -/
theorem TierMap.combines_ofList {pairs left right : List (String × Int64)}
    (h : (left ++ right).Perm pairs) : Combines (ofList pairs) (ofList left) (ofList right) where
  mem_iff tier := by
    have hnames := (h.map Prod.fst).mem_iff (a := tier)
    rw [List.map_append, List.mem_append] at hnames
    simp only [tiers_ofList, List.mem_eraseDups]
    exact hnames.symm
  get?_eq tier hmem := by
    rw [tiers_ofList, List.mem_eraseDups] at hmem
    rw [get?_ofList, if_pos hmem, ← amount_perm h, amount_append, Int64.ofInt_add, getD_ofList,
      getD_ofList]

/-! ### Totals of two parts -/

/-- Totals that two parts add up to. -/
structure Totals.Combines (whole left right : Totals) : Prop where
  capacity : whole.capacity = left.capacity + right.capacity
  used : whole.used = left.used + right.used
  capacityTiers : whole.capacityTiers.Combines left.capacityTiers right.capacityTiers
  usedTiers : whole.usedTiers.Combines left.usedTiers right.usedTiers

theorem Worker.sumOf_append (number : Worker → Int64) (workers others : List Worker) :
    sumOf number (workers ++ others) = sumOf number workers + sumOf number others := by
  rw [sumOf, List.map_append, List.sum_append, sumOf, sumOf]

theorem Worker.reported_append (tiersOf : Worker → TierMap) (workers others : List Worker) :
    reported tiersOf (workers ++ others) = reported tiersOf workers ++ reported tiersOf others :=
  List.flatMap_append

theorem Totals.combines_ofWorkers {workers left right : List Worker}
    (h : (left ++ right).Perm workers) :
    Combines (ofWorkers workers) (ofWorkers left) (ofWorkers right) := by
  have hsum (number : Worker → Int64) :
      sumOf number workers = sumOf number left + sumOf number right := by
    rw [← Worker.sumOf_perm h, Worker.sumOf_append]
  have hreported (tiersOf : Worker → TierMap) :
      (reported tiersOf left ++ reported tiersOf right).Perm (reported tiersOf workers) := by
    rw [← Worker.reported_append]
    exact Worker.reported_perm h tiersOf
  rw [ofWorkers_eq, ofWorkers_eq, ofWorkers_eq]
  constructor
  · show Int64.ofInt (sumOf Worker.capacity workers) = _
    rw [hsum, Int64.ofInt_add]
  · show Int64.ofInt (sumOf Worker.used workers) = _
    rw [hsum, Int64.ofInt_add]
  · exact TierMap.combines_ofList (hreported Worker.capacityTiers)
  · exact TierMap.combines_ofList (hreported Worker.usedTiers)

/-! ### Reports over two parts -/

/-- A report that two reports over parts add up to. -/
structure Report.Splits (whole left right : Report) : Prop where
  totals : whole.totals.Combines left.totals right.totals
  rows : (left.rows ++ right.rows).Perm whole.rows

theorem Report.splits_collect {workers left right : List Worker}
    (h : (left ++ right).Perm workers) (displayTiers : List String)
    (range leftRange rightRange : Range) :
    Splits (collect displayTiers range workers) (collect displayTiers leftRange left)
      (collect displayTiers rightRange right) := by
  -- each report puts its own workers in order, so the parts make up the whole only up to order
  have hordered : (ordered left ++ ordered right).Perm (ordered workers) :=
    ((ordered_perm left).append (ordered_perm right)).trans (h.trans (ordered_perm workers).symm)
  refine ⟨Totals.combines_ofWorkers hordered, ?_⟩
  show ((ordered left).map _ ++ (ordered right).map _).Perm ((ordered workers).map _)
  rw [← List.map_append]
  exact hordered.map _

/-- Two sets of addresses that cover the workers and have none in common split them. -/
theorem filter_hosts_perm {workers : List Worker} {addresses others : List String}
    (hdisjoint : addresses.Disjoint others)
    (hcover : ∀ worker ∈ workers, worker.host ∈ addresses ∨ worker.host ∈ others) :
    (workers.filter (fun worker => addresses.contains worker.host)
      ++ workers.filter (fun worker => others.contains worker.host)).Perm workers := by
  have hothers : workers.filter (fun worker => others.contains worker.host)
      = workers.filter (fun worker => !addresses.contains worker.host) := by
    apply List.filter_congr
    intro worker hworker
    by_cases haddress : worker.host ∈ addresses
    · have hother : worker.host ∉ others := hdisjoint haddress
      simp [haddress, hother]
    · have hother : worker.host ∈ others := (hcover worker hworker).resolve_left haddress
      simp [haddress, hother]
  rw [hothers]
  exact List.filter_append_perm _ workers

/-- The reports over the live and the lost workers add up to the report over all workers, and so do
those over two sets of addresses that split the workers. -/
theorem partition_reports (snapshot : Snapshot) (displayTiers : List String) :
    Report.Splits (snapshot.report displayTiers .all)
      (snapshot.report displayTiers .live) (snapshot.report displayTiers .lost) ∧
    ∀ addresses others : List String, addresses.Disjoint others →
      (∀ worker ∈ snapshot.live ++ snapshot.lost,
        worker.host ∈ addresses ∨ worker.host ∈ others) →
      Report.Splits (snapshot.report displayTiers .all)
        (snapshot.report displayTiers (.specified addresses))
        (snapshot.report displayTiers (.specified others)) := by
  constructor
  · exact Report.splits_collect (List.Perm.refl _) displayTiers _ _ _
  · intro addresses others hdisjoint hcover
    exact Report.splits_collect (filter_hosts_perm hdisjoint hcover) displayTiers _ _ _

/-- A host that is both live and lost falls on one side. -/
theorem partition_reports_repeated_host :
    let near : Worker := ⟨"a", 5, 10, 1, TierMap.ofList [("HDD", 10)], ∅⟩
    let far : Worker :=
      ⟨"b", 1, 9223372036854775807, 2, TierMap.ofList [("MEM", 5), ("HDD", 15)], ∅⟩
    let gone : Worker := ⟨"a", 900, 7, 0, TierMap.ofList [("SSD", 7)], ∅⟩
    let snapshot : Snapshot := ⟨[near, far], [gone]⟩
    ["a"].Disjoint ["b", "c"] ∧
      (∀ worker ∈ snapshot.live ++ snapshot.lost, worker.host ∈ ["a"] ∨ worker.host ∈ ["b", "c"]) ∧
      Report.Splits (snapshot.report ["HDD"] .all) (snapshot.report ["HDD"] (.specified ["a"]))
        (snapshot.report ["HDD"] (.specified ["b", "c"])) := by
  intro near far gone snapshot
  have hdisjoint : ["a"].Disjoint ["b", "c"] := by simp
  have hcover : ∀ worker ∈ snapshot.live ++ snapshot.lost,
      worker.host ∈ ["a"] ∨ worker.host ∈ ["b", "c"] := by
    simp [snapshot, near, far, gone]
  exact ⟨hdisjoint, hcover, (partition_reports snapshot ["HDD"]).2 _ _ hdisjoint hcover⟩

end ClusterCapacity
