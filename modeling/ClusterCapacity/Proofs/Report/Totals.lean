import ClusterCapacity.Proofs.Report.HeartbeatOrder
import ClusterCapacity.Proofs.TierMap.Sums

/-!
# Totals are sums

`totals_collect`: the totals of a report are the integer sums over its workers, wrapped to 64 bits,
and its tiers are those of the workers, in the order in which a scan by heartbeat meets them first.

The totals are folded up over the workers, and each fold step folds over the tiers of one worker.
`foldl_addWorker` turns both folds into one list: adding workers is adding the pairs that they
report (`reported`) one after the other.  What such a list adds up to is known from
`TierMap.tiers_ofList` and `TierMap.get?_ofList`.
-/

namespace ClusterCapacity

/-! ### What workers report -/

namespace Worker

/-- The sum of a number over the workers. -/
def sumOf (number : Worker → Int64) (workers : List Worker) : Int :=
  (workers.map (fun worker => (number worker).toInt)).sum

/-- The pairs of tiers and bytes that the workers report, worker by worker. -/
def reported (tiersOf : Worker → TierMap) (workers : List Worker) : List (String × Int64) :=
  workers.flatMap (fun worker => (tiersOf worker).entries)

theorem sumOf_cons (number : Worker → Int64) (worker : Worker) (workers : List Worker) :
    sumOf number (worker :: workers) = (number worker).toInt + sumOf number workers := by
  rw [sumOf, List.map_cons, List.sum_cons, sumOf]

theorem sumOf_perm {workers others : List Worker} (h : workers.Perm others)
    (number : Worker → Int64) : sumOf number workers = sumOf number others :=
  (h.map _).sum_eq

theorem reported_perm {workers others : List Worker} (h : workers.Perm others)
    (tiersOf : Worker → TierMap) : (reported tiersOf workers).Perm (reported tiersOf others) :=
  h.flatMap_right _

theorem map_fst_reported (tiersOf : Worker → TierMap) (workers : List Worker) :
    (reported tiersOf workers).map Prod.fst
      = workers.flatMap (fun worker => (tiersOf worker).tiers) := by
  rw [reported, List.map_flatMap]
  rfl

theorem mem_map_fst_reported {tiersOf : Worker → TierMap} {workers : List Worker}
    {tier : String} :
    tier ∈ (reported tiersOf workers).map Prod.fst
      ↔ ∃ worker ∈ workers, tier ∈ (tiersOf worker).tiers := by
  rw [map_fst_reported, List.mem_flatMap]

/-- What the workers report for a tier is the sum over those that report it. -/
theorem amount_reported (tiersOf : Worker → TierMap) (workers : List Worker) (tier : String) :
    TierMap.amount tier (reported tiersOf workers)
      = ((workers.filterMap (fun worker => (tiersOf worker).get? tier)).map Int64.toInt).sum := by
  induction workers with
  | nil => rfl
  | cons worker rest ih =>
    -- the tiers of the first worker come first, and at most one of its entries is about the tier
    have hsplit : reported tiersOf (worker :: rest)
        = (tiersOf worker).entries ++ reported tiersOf rest := rfl
    rw [hsplit, TierMap.amount_append, TierMap.amount_entries, ih, List.filterMap_cons]
    cases (tiersOf worker).get? tier with
    | none => rw [Option.map_none, Option.getD_none, zero_add]
    | some bytes => rw [Option.map_some, Option.getD_some, List.map_cons, List.sum_cons]

end Worker

open Worker (HeartbeatOrder sumOf reported)

/-! ### Adding up workers -/

namespace Totals

/-- Adding workers adds their numbers and the pairs that they report. -/
theorem foldl_addWorker (totals : Totals) (workers : List Worker) :
    workers.foldl addWorker totals = {
      capacity := totals.capacity + Int64.ofInt (sumOf Worker.capacity workers)
      used := totals.used + Int64.ofInt (sumOf Worker.used workers)
      capacityTiers := totals.capacityTiers.addAll (reported Worker.capacityTiers workers)
      usedTiers := totals.usedTiers.addAll (reported Worker.usedTiers workers) } := by
  induction workers generalizing totals with
  | nil =>
    have hzero : Int64.ofInt 0 = 0 := rfl
    simp only [List.foldl_nil, sumOf, reported, List.map_nil, List.sum_nil, List.flatMap_nil,
      TierMap.addAll, hzero, Int64.add_zero]
  | cons worker rest ih =>
    simp only [List.foldl_cons, ih, addWorker, Worker.sumOf_cons, Int64.ofInt_add,
      Int64.ofInt_toInt, Int64.add_assoc, reported, List.flatMap_cons, TierMap.addAll_append,
      TierMap.merge]

theorem ofWorkers_eq (workers : List Worker) :
    ofWorkers workers = {
      capacity := Int64.ofInt (sumOf Worker.capacity workers)
      used := Int64.ofInt (sumOf Worker.used workers)
      capacityTiers := TierMap.ofList (reported Worker.capacityTiers workers)
      usedTiers := TierMap.ofList (reported Worker.usedTiers workers) } := by
  have hblank : ({} : Totals) = ⟨0, 0, TierMap.empty, TierMap.empty⟩ := rfl
  rw [ofWorkers, foldl_addWorker, hblank]
  simp only [Int64.zero_add, TierMap.ofList]

end Totals

/-! ### Totals of a report -/

/-- `sums` lists what the tiers of the workers add up to. -/
structure TierSums (tiersOf : Worker → TierMap) (workers : List Worker) (sums : TierMap) :
    Prop where
  /-- A tier is listed if some worker reports it. -/
  mem_iff : ∀ tier, tier ∈ sums.tiers ↔ ∃ worker ∈ workers, tier ∈ (tiersOf worker).tiers
  /-- It is listed once. -/
  count_eq_one : ∀ tier ∈ sums.tiers, sums.tiers.count tier = 1
  /-- Its count is the wrapped sum over the workers that report it. -/
  get?_eq : ∀ tier ∈ sums.tiers, sums.get? tier = some (Int64.ofInt
    ((workers.filterMap (fun worker => (tiersOf worker).get? tier)).map Int64.toInt).sum)
  /-- A scan by heartbeat meets the tiers in this order. -/
  order : ∃ scan, HeartbeatOrder workers scan ∧
    sums.tiers = (scan.flatMap (fun worker => (tiersOf worker).tiers)).eraseDups

theorem tierSums_ordered (tiersOf : Worker → TierMap) (workers : List Worker) :
    TierSums tiersOf workers (TierMap.ofList (reported tiersOf (Report.ordered workers))) where
  mem_iff tier := by
    rw [TierMap.tiers_ofList, List.mem_eraseDups, Worker.mem_map_fst_reported]
    simp only [(Report.ordered_perm workers).mem_iff]
  count_eq_one tier h :=
    List.count_eq_one_of_mem (TierMap.nodup _) h
  get?_eq tier h := by
    have hperm := Worker.reported_perm (Report.ordered_perm workers) tiersOf
    rw [TierMap.tiers_ofList, List.mem_eraseDups] at h
    rw [TierMap.get?_ofList, if_pos h, TierMap.amount_perm hperm, Worker.amount_reported]
  order := by
    -- the rows themselves are the scan
    refine ⟨Report.ordered workers, Report.heartbeatOrder_ordered workers, ?_⟩
    rw [TierMap.tiers_ofList, Worker.map_fst_reported]

/-- The totals of a report are the exact sums over its workers, wrapped to 64 bits, and list the
tiers of the workers in heartbeat order. -/
theorem totals_collect (displayTiers : List String) (range : Range) (workers : List Worker) :
    (Report.collect displayTiers range workers).totals.capacity
        = Int64.ofInt (sumOf Worker.capacity workers) ∧
      (Report.collect displayTiers range workers).totals.used
        = Int64.ofInt (sumOf Worker.used workers) ∧
      TierSums Worker.capacityTiers workers
        (Report.collect displayTiers range workers).totals.capacityTiers ∧
      TierSums Worker.usedTiers workers
        (Report.collect displayTiers range workers).totals.usedTiers := by
  have htotals : (Report.collect displayTiers range workers).totals
      = Totals.ofWorkers (Report.ordered workers) := rfl
  have hperm := Report.ordered_perm workers
  rw [htotals, Totals.ofWorkers_eq, Worker.sumOf_perm hperm, Worker.sumOf_perm hperm]
  exact ⟨rfl, rfl, tierSums_ordered Worker.capacityTiers workers,
    tierSums_ordered Worker.usedTiers workers⟩

end ClusterCapacity
