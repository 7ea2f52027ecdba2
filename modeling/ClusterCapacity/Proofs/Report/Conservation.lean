import ClusterCapacity.Proofs.Report.Totals
import ClusterCapacity.Report.Text

/-!
# No tier byte is lost or counted twice

`tiers_conserved`: the column of a display tier adds up to what the totals hold for the tier, all
counts of the totals add up to all counts of the workers, and neither the totals nor the summary
depends on the display tiers.

A row looks a tier up, while the totals add every entry of every worker, so the two agree because a
tier map lists no name twice (`Worker.amount_reported_eq_sumOf`).  That no entry is dropped on the
way is seen entry by entry: adding a pair to a tier map adds its count to the sum of all counts
(`TierMap.wrappedSum_counts_addAll`).
-/

namespace ClusterCapacity

open Worker (sumOf reported)

/-! ### Wrapped sums -/

/-- The sum of the integers that the numbers denote, wrapped to 64 bits. -/
def wrappedSum (numbers : List Int64) : Int64 := Int64.ofInt (numbers.map Int64.toInt).sum

theorem wrappedSum_nil : wrappedSum [] = 0 := rfl

theorem wrappedSum_cons (number : Int64) (numbers : List Int64) :
    wrappedSum (number :: numbers) = number + wrappedSum numbers := by
  rw [wrappedSum, List.map_cons, List.sum_cons, Int64.ofInt_add, Int64.ofInt_toInt, wrappedSum]

theorem wrappedSum_append (numbers others : List Int64) :
    wrappedSum (numbers ++ others) = wrappedSum numbers + wrappedSum others := by
  rw [wrappedSum, List.map_append, List.sum_append, Int64.ofInt_add, wrappedSum, wrappedSum]

theorem wrappedSum_perm {numbers others : List Int64} (h : numbers.Perm others) :
    wrappedSum numbers = wrappedSum others := by
  rw [wrappedSum, (h.map Int64.toInt).sum_eq, wrappedSum]

theorem wrappedSum_map (number : Worker → Int64) (workers : List Worker) :
    wrappedSum (workers.map number) = Int64.ofInt (sumOf number workers) := by
  rw [wrappedSum, List.map_map, sumOf]
  rfl

/-! ### All counts of a tier map -/

namespace TierMap

/-- The counts in the order of the names. -/
def counts (tiers : TierMap) : List Int64 := tiers.entries.map Prod.snd

theorem wrappedSum_addEntry (tier : String) (bytes : Int64) (entries : List (String × Int64)) :
    wrappedSum ((addEntry tier bytes entries).map Prod.snd)
      = wrappedSum (entries.map Prod.snd) + bytes := by
  induction entries with
  | nil => rw [addEntry, List.map_cons, List.map_nil, wrappedSum_cons, wrappedSum_nil,
      Int64.add_comm]
  | cons entry rest ih =>
    obtain ⟨name, count⟩ := entry
    rw [addEntry]
    -- the bytes go into the first entry of the name, wherever it is
    split
    · rw [List.map_cons, List.map_cons, wrappedSum_cons, wrappedSum_cons, Int64.add_assoc,
        Int64.add_assoc, Int64.add_comm bytes]
    · rw [List.map_cons, List.map_cons, wrappedSum_cons, wrappedSum_cons, ih, Int64.add_assoc]

/-- The sum of all counts grows by the counts of the pairs. -/
theorem wrappedSum_counts_addAll (tiers : TierMap) (pairs : List (String × Int64)) :
    wrappedSum (tiers.addAll pairs).counts
      = wrappedSum tiers.counts + wrappedSum (pairs.map Prod.snd) := by
  induction pairs generalizing tiers with
  | nil => rw [List.map_nil, wrappedSum_nil, Int64.add_zero, addAll, List.foldl_nil]
  | cons pair rest ih =>
    have hadd : wrappedSum (tiers.add pair.1 pair.2).counts = wrappedSum tiers.counts + pair.2 :=
      wrappedSum_addEntry pair.1 pair.2 tiers.entries
    rw [addAll_cons, ih, hadd, List.map_cons, wrappedSum_cons, Int64.add_assoc]

theorem wrappedSum_counts_ofList (pairs : List (String × Int64)) :
    wrappedSum (ofList pairs).counts = wrappedSum (pairs.map Prod.snd) := by
  have hempty : wrappedSum empty.counts = 0 := rfl
  rw [ofList, wrappedSum_counts_addAll, hempty, Int64.zero_add]

end TierMap

/-! ### What workers report -/

namespace Worker

/-- What the workers report for a tier is what a look-up finds in each of them. -/
theorem amount_reported_eq_sumOf (tiersOf : Worker → TierMap) (workers : List Worker)
    (tier : String) : TierMap.amount tier (reported tiersOf workers)
      = sumOf (fun worker => (tiersOf worker).getD tier) workers := by
  induction workers with
  | nil => rfl
  | cons worker rest ih =>
    have hsplit : reported tiersOf (worker :: rest)
        = (tiersOf worker).entries ++ reported tiersOf rest := rfl
    have hworker : TierMap.amount tier (tiersOf worker).entries
        = ((tiersOf worker).getD tier).toInt := by
      rw [TierMap.amount_entries, TierMap.getD]
      cases (tiersOf worker).get? tier <;> rfl
    rw [hsplit, TierMap.amount_append, hworker, ih, sumOf_cons]

theorem map_snd_reported (tiersOf : Worker → TierMap) (workers : List Worker) :
    (reported tiersOf workers).map Prod.snd
      = workers.flatMap (fun worker => (tiersOf worker).counts) := by
  rw [reported, List.map_flatMap]
  rfl

/-- If a number of each worker is the sum of its counts, the sum of the numbers is that of all
counts. -/
theorem ofInt_sumOf_eq_wrappedSum {number : Worker → Int64} {tiersOf : Worker → TierMap}
    {workers : List Worker}
    (h : ∀ worker ∈ workers, number worker = wrappedSum (tiersOf worker).counts) :
    Int64.ofInt (sumOf number workers)
      = wrappedSum (workers.flatMap (fun worker => (tiersOf worker).counts)) := by
  rw [← wrappedSum_map]
  induction workers with
  | nil => rfl
  | cons worker rest ih =>
    rw [List.forall_mem_cons] at h
    rw [List.map_cons, wrappedSum_cons, h.1, ih h.2, List.flatMap_cons, wrappedSum_append]

end Worker

/-! ### Reports -/

namespace Report

/-- A column of the table from top to bottom. -/
def column (cells : Row → List Int64) (j : Nat) (report : Report) : List Int64 :=
  report.rows.map (fun row => (cells row).getD j 0)

/-- What follows the summary in the text: the table, if there are rows, and an empty line. -/
def tablePart (report : Report) : String :=
  (if report.rows.isEmpty then "" else "\n" ++ tableText report.displayTiers report.rows) ++ "\n"

theorem text_eq_append (report : Report) :
    report.text = summaryText report.range report.totals ++ report.tablePart := by
  rw [text, tablePart, String.append_assoc]

/-- The cells of a tier are what its look-up finds in the workers, so they add up to what the
workers report for it. -/
theorem wrappedSum_column {displayTiers : List String} {cells : Row → List Int64}
    {tiersOf : Worker → TierMap}
    (hcells : ∀ worker, cells (worker.row displayTiers) = displayTiers.map (tiersOf worker).getD)
    {j : Nat} {tier : String} (htier : displayTiers[j]? = some tier) (range : Range)
    (workers : List Worker) :
    wrappedSum ((collect displayTiers range workers).column cells j)
      = (TierMap.ofList (reported tiersOf (ordered workers))).getD tier := by
  have hcolumn : (collect displayTiers range workers).column cells j
      = (ordered workers).map (fun worker => (tiersOf worker).getD tier) := by
    rw [column, collect, List.map_map]
    apply List.map_congr_left
    intro worker _
    rw [Function.comp_apply, hcells, List.getD_eq_getElem?_getD, List.getElem?_map, htier]
    rfl
  rw [hcolumn, wrappedSum_map, ← Worker.amount_reported_eq_sumOf, TierMap.getD_ofList]

/-- The totals hold all counts of the workers. -/
theorem wrappedSum_counts_ordered (tiersOf : Worker → TierMap) (workers : List Worker) :
    wrappedSum (TierMap.ofList (reported tiersOf (ordered workers))).counts
      = wrappedSum (workers.flatMap (fun worker => (tiersOf worker).counts)) := by
  rw [TierMap.wrappedSum_counts_ofList, Worker.map_snd_reported]
  exact wrappedSum_perm ((ordered_perm workers).flatMap_right _)

end Report

/-- The columns of a report add up to its totals, the totals add up to the counts of the workers,
and only the table depends on the display tiers. -/
theorem tiers_conserved (displayTiers : List String) (range : Range) (workers : List Worker) :
    let report := Report.collect displayTiers range workers
    (∀ j tier, displayTiers[j]? = some tier →
      wrappedSum (report.column Row.capacityOnTiers j) = report.totals.capacityTiers.getD tier ∧
      wrappedSum (report.column Row.usedOnTiers j) = report.totals.usedTiers.getD tier) ∧
    wrappedSum report.totals.capacityTiers.counts
      = wrappedSum (workers.flatMap (fun worker => worker.capacityTiers.counts)) ∧
    wrappedSum report.totals.usedTiers.counts
      = wrappedSum (workers.flatMap (fun worker => worker.usedTiers.counts)) ∧
    ((∀ worker ∈ workers, worker.capacity = wrappedSum worker.capacityTiers.counts) →
      report.totals.capacity = wrappedSum report.totals.capacityTiers.counts) ∧
    ∃ block, report.text = block ++ report.tablePart ∧ ∀ others,
      (Report.collect others range workers).totals = report.totals ∧
      (Report.collect others range workers).text
        = block ++ (Report.collect others range workers).tablePart := by
  intro report
  have htotals : report.totals = Totals.ofWorkers (Report.ordered workers) := rfl
  have hcapacity := Report.wrappedSum_counts_ordered Worker.capacityTiers workers
  have hused := Report.wrappedSum_counts_ordered Worker.usedTiers workers
  rw [htotals, Totals.ofWorkers_eq]
  refine ⟨?columns, hcapacity, hused, ?whole, Report.summaryText range report.totals, ?_, ?_⟩
  case columns =>
    intro j tier htier
    exact ⟨Report.wrappedSum_column (fun _ => rfl) htier range workers,
      Report.wrappedSum_column (fun _ => rfl) htier range workers⟩
  case whole =>
    intro hworkers
    have hsum : sumOf Worker.capacity (Report.ordered workers) = sumOf Worker.capacity workers :=
      Worker.sumOf_perm (Report.ordered_perm workers) Worker.capacity
    dsimp only
    rw [hcapacity, hsum, Worker.ofInt_sumOf_eq_wrappedSum hworkers]
  · exact report.text_eq_append
  · -- totals are taken over the workers, which know nothing of display tiers
    intro others
    rw [← Totals.ofWorkers_eq]
    exact ⟨rfl, Report.text_eq_append _⟩

/-- Two workers share a tier, of which the sum wraps, and the tier has two columns. -/
theorem tiers_conserved_repeated_tier :
    let first : Worker :=
      ⟨"a", 5, 9223372036854775807, 1, TierMap.ofList [("HDD", 9223372036854775807)], ∅⟩
    let second : Worker := ⟨"b", 1, 20, 2, TierMap.ofList [("MEM", 5), ("HDD", 15)], ∅⟩
    let report := Report.collect ["HDD", "NVME", "HDD"] .all [first, second]
    (∀ worker ∈ [first, second], worker.capacity = wrappedSum worker.capacityTiers.counts) ∧
      wrappedSum (report.column Row.capacityOnTiers 2)
        = report.totals.capacityTiers.getD "HDD" ∧
      wrappedSum (report.column Row.usedOnTiers 1) = report.totals.usedTiers.getD "NVME" ∧
      report.totals.capacity = wrappedSum report.totals.capacityTiers.counts := by
  intro first second report
  have hworkers : ∀ worker ∈ [first, second],
      worker.capacity = wrappedSum worker.capacityTiers.counts := by
    intro worker hworker
    simp only [List.mem_cons, List.not_mem_nil, or_false] at hworker
    rcases hworker with rfl | rfl <;> decide
  obtain ⟨hcolumns, -, -, hwhole, -⟩ :=
    tiers_conserved ["HDD", "NVME", "HDD"] .all [first, second]
  exact ⟨hworkers, (hcolumns 2 "HDD" rfl).1, (hcolumns 1 "NVME" rfl).2, hwhole hworkers⟩

end ClusterCapacity
