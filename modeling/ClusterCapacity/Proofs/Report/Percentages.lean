import ClusterCapacity.Proofs.Percentage
import ClusterCapacity.Proofs.Report.Conservation

/-!
# The percentage of a cluster

`percentage_between`: where bytes are used of some capacity only and the sums fit in 64 bits, the
used percentage of the totals lies between the least and the greatest that the rows show.

A percentage is compared with a number by products (`Percentage.le_used_iff`), and products add up
over the workers: what every worker reaches of its capacity the sums reach (`mul_sumOf_le`), and
what no worker reaches they do not (`mul_sumOf_lt`).  Workers without capacity add nothing to either
side, but have no percentage, so that one worker with capacity is needed.
-/

namespace ClusterCapacity

namespace Worker

/-! ### Sums over workers -/

variable {number other : Worker → Int64} {workers : List Worker} {a b : ℤ}

/-- Multiples that are in order for each worker are so for the sums. -/
theorem mul_sumOf_le
    (h : ∀ worker ∈ workers, a * (number worker).toInt ≤ b * (other worker).toInt) :
    a * sumOf number workers ≤ b * sumOf other workers := by
  rw [sumOf, sumOf, ← List.sum_map_mul_left, ← List.sum_map_mul_left]
  exact List.sum_le_sum h

/-- They are strictly in order if those of some worker are. -/
theorem mul_sumOf_lt
    (h : ∀ worker ∈ workers, a * (number worker).toInt ≤ b * (other worker).toInt)
    (hlt : ∃ worker ∈ workers, a * (number worker).toInt < b * (other worker).toInt) :
    a * sumOf number workers < b * sumOf other workers := by
  rw [sumOf, sumOf, ← List.sum_map_mul_left, ← List.sum_map_mul_left]
  exact List.sum_lt_sum _ _ h hlt

/-! ### Workers whose numbers add up -/

/-- Whether workers use bytes of some capacity only and no negative number of them, one of them has
capacity, and their sums fit in 64 bits. -/
structure Accounted (workers : List Worker) : Prop where
  used_nonneg : ∀ worker ∈ workers, 0 ≤ worker.used
  capacity_pos_or : ∀ worker ∈ workers,
    0 < worker.capacity ∨ worker.capacity = 0 ∧ worker.used = 0
  exists_capacity_pos : ∃ worker ∈ workers, 0 < worker.capacity
  sumOf_capacity_le : sumOf Worker.capacity workers ≤ Int64.maxValue.toInt
  sumOf_used_le : sumOf Worker.used workers ≤ Int64.maxValue.toInt

namespace Accounted

theorem sumOf_used_nonneg (h : Accounted workers) : 0 ≤ sumOf Worker.used workers := by
  refine List.sum_nonneg fun value hvalue => ?_
  obtain ⟨worker, hmem, rfl⟩ := List.mem_map.mp hvalue
  exact Int64.le_iff_toInt_le.mp (h.used_nonneg worker hmem)

theorem sumOf_capacity_pos (h : Accounted workers) : 0 < sumOf Worker.capacity workers := by
  have hsum : 0 * sumOf Worker.used workers < 1 * sumOf Worker.capacity workers := by
    refine mul_sumOf_lt (fun worker hmem => ?_) (h.exists_capacity_pos.imp fun worker hworker => ?_)
    · rw [zero_mul, one_mul]
      rcases h.capacity_pos_or worker hmem with hpos | ⟨hzero, -⟩
      · exact (Int64.lt_iff_toInt_lt.mp hpos).le
      · rw [hzero]
        rfl
    · rw [zero_mul, one_mul]
      exact ⟨hworker.1, Int64.lt_iff_toInt_lt.mp hworker.2⟩
  rwa [zero_mul, one_mul] at hsum

/-- What each percentage of a worker reaches the sums reach. -/
theorem mul_sumOf_capacity_le (h : Accounted workers) {n : ℤ} (hn : n < 2 ^ 63)
    (hreach : ∀ worker ∈ workers, ∀ q ∈ Percentage.used worker.used worker.capacity,
      n ≤ q.toInt) : n * sumOf Worker.capacity workers ≤ 100 * sumOf Worker.used workers := by
  refine mul_sumOf_le fun worker hmem => ?_
  rcases h.capacity_pos_or worker hmem with hpos | ⟨hcapacity, hused⟩
  · obtain ⟨q, hq, -⟩ := Percentage.exists_used worker.used (Percentage.ne_zero_of_pos hpos)
    exact (Percentage.le_used_iff (h.used_nonneg worker hmem) hpos hq hn).mp
      (hreach worker hmem q hq)
  · rw [hcapacity, hused, Int64.toInt_zero, mul_zero, mul_zero]

/-- What no percentage of a worker reaches the sums do not reach. -/
theorem lt_mul_sumOf_capacity (h : Accounted workers) {n : ℤ} (hn : n < 2 ^ 63)
    (hreach : ∀ worker ∈ workers, ∀ q ∈ Percentage.used worker.used worker.capacity,
      q.toInt < n) : 100 * sumOf Worker.used workers < n * sumOf Worker.capacity workers := by
  have hlt : ∀ worker ∈ workers, 0 < worker.capacity →
      100 * worker.used.toInt < n * worker.capacity.toInt := by
    intro worker hmem hpos
    obtain ⟨q, hq, -⟩ := Percentage.exists_used worker.used (Percentage.ne_zero_of_pos hpos)
    have hbelow := hreach worker hmem q hq
    rwa [← not_le, Percentage.le_used_iff (h.used_nonneg worker hmem) hpos hq hn, not_le] at hbelow
  refine mul_sumOf_lt (fun worker hmem => ?_) (h.exists_capacity_pos.imp fun worker hworker => ?_)
  · rcases h.capacity_pos_or worker hmem with hpos | ⟨hcapacity, hused⟩
    · exact (hlt worker hmem hpos).le
    · rw [hcapacity, hused, Int64.toInt_zero, mul_zero, mul_zero]
  · exact ⟨hworker.1, hlt worker hworker.1 hworker.2⟩

end Accounted

end Worker

open Worker (sumOf)

/-! ### Reports -/

namespace Report

variable (displayTiers : List String) (range : Range) {workers : List Worker}

/-- Sums that fit in 64 bits are the numbers of the totals. -/
theorem toInt_collect (h : Worker.Accounted workers) :
    (collect displayTiers range workers).totals.capacity.toInt = sumOf Worker.capacity workers ∧
      (collect displayTiers range workers).totals.used.toInt = sumOf Worker.used workers := by
  have htotals : (collect displayTiers range workers).totals
      = Totals.ofWorkers (ordered workers) := rfl
  have hperm := ordered_perm workers
  have hmax : Int64.maxValue.toInt = 2 ^ 63 - 1 := rfl
  have hcapacity := h.sumOf_capacity_pos
  have hcapacity_le := h.sumOf_capacity_le
  have hused := h.sumOf_used_nonneg
  have hused_le := h.sumOf_used_le
  rw [htotals, Totals.ofWorkers_eq, Worker.sumOf_perm hperm, Worker.sumOf_perm hperm Worker.used]
  exact ⟨Int64.toInt_ofInt_of_le (by omega) (by omega),
    Int64.toInt_ofInt_of_le (by omega) (by omega)⟩

theorem collect_capacity_pos (h : Worker.Accounted workers) :
    0 < (collect displayTiers range workers).totals.capacity := by
  rw [Int64.lt_iff_toInt_lt, (toInt_collect displayTiers range h).1]
  exact h.sumOf_capacity_pos

theorem collect_used_nonneg (h : Worker.Accounted workers) :
    0 ≤ (collect displayTiers range workers).totals.used := by
  rw [Int64.le_iff_toInt_le, (toInt_collect displayTiers range h).2]
  exact h.sumOf_used_nonneg

/-- Where no worker uses more than its capacity, neither do all together. -/
theorem collect_used_le_capacity (h : Worker.Accounted workers)
    (hpart : ∀ worker ∈ workers, worker.used ≤ worker.capacity) :
    (collect displayTiers range workers).totals.used
      ≤ (collect displayTiers range workers).totals.capacity := by
  obtain ⟨hcapacity, hused⟩ := toInt_collect displayTiers range h
  rw [Int64.le_iff_toInt_le, hcapacity, hused]
  exact List.sum_le_sum fun worker hmem => Int64.le_iff_toInt_le.mp (hpart worker hmem)

/-- The percentage of the totals is compared through the sums over the workers. -/
theorem le_usedPercentage_iff (h : Worker.Accounted workers) {p : Int64}
    (hp : (collect displayTiers range workers).totals.usedPercentage = some p) {n : ℤ}
    (hn : n < 2 ^ 63) : n ≤ p.toInt ↔
      n * sumOf Worker.capacity workers ≤ 100 * sumOf Worker.used workers := by
  obtain ⟨hcapacity, hused⟩ := toInt_collect displayTiers range h
  rw [Percentage.le_used_iff (collect_used_nonneg displayTiers range h)
    (collect_capacity_pos displayTiers range h) hp hn, hcapacity, hused]

/-- Bounds of all percentages of workers are bounds of the percentage of the totals. -/
theorem usedPercentage_bounds (h : Worker.Accounted workers) {p lo hi : Int64}
    (hp : (collect displayTiers range workers).totals.usedPercentage = some p)
    (hbounds : ∀ worker ∈ workers, ∀ q ∈ Percentage.used worker.used worker.capacity,
      lo ≤ q ∧ q ≤ hi) : lo ≤ p ∧ p ≤ hi := by
  constructor
  · rw [Int64.le_iff_toInt_le, le_usedPercentage_iff displayTiers range h hp (Int64.toInt_lt lo)]
    refine h.mul_sumOf_capacity_le (Int64.toInt_lt lo) fun worker hmem q hq => ?_
    exact Int64.le_iff_toInt_le.mp (hbounds worker hmem q hq).1
  · -- if the whole reached the next percentage, so would some worker
    by_contra hlt
    rw [Int64.le_iff_toInt_le, not_le] at hlt
    have hnext : hi.toInt + 1 < 2 ^ 63 := lt_of_le_of_lt hlt (Int64.toInt_lt p)
    have hreached := (le_usedPercentage_iff displayTiers range h hp hnext).mp hlt
    refine absurd hreached (not_le.mpr (h.lt_mul_sumOf_capacity hnext fun worker hmem q hq => ?_))
    exact Int.lt_add_one_of_le (Int64.le_iff_toInt_le.mp (hbounds worker hmem q hq).2)

/-! ### The percentages that are shown -/

/-- The percentages that the rows show are those of the workers. -/
theorem mem_shown_iff {displayTiers : List String} {range : Range} {q : Int64} :
    q ∈ (collect displayTiers range workers).rows.filterMap Row.usedPercentage
      ↔ ∃ worker ∈ workers, q ∈ Percentage.used worker.used worker.capacity := by
  rw [collect, List.filterMap_map, List.mem_filterMap]
  simp only [(ordered_perm workers).mem_iff, Function.comp_apply, Worker.row, Option.mem_def]

theorem shown_ne_nil (h : Worker.Accounted workers) :
    (collect displayTiers range workers).rows.filterMap Row.usedPercentage ≠ [] := by
  obtain ⟨worker, hmem, hpos⟩ := h.exists_capacity_pos
  obtain ⟨q, hq, -⟩ := Percentage.exists_used worker.used (Percentage.ne_zero_of_pos hpos)
  exact List.ne_nil_of_mem (mem_shown_iff.mpr ⟨worker, hmem, hq⟩)

/-- Some of the percentages that are shown are the least and the greatest. -/
theorem exists_least_greatest {shown : List Int64} (h : shown ≠ []) :
    ∃ lo ∈ shown, ∃ hi ∈ shown, ∀ q ∈ shown, lo ≤ q ∧ q ≤ hi := by
  have hnonempty : shown.toFinset.Nonempty := (List.toFinset_nonempty_iff shown).mpr h
  obtain ⟨lo, hlo, hleast⟩ := shown.toFinset.exists_min_image Int64.toInt hnonempty
  obtain ⟨hi, hhi, hgreatest⟩ := shown.toFinset.exists_max_image Int64.toInt hnonempty
  simp only [List.mem_toFinset] at hlo hleast hhi hgreatest
  exact ⟨lo, hlo, hi, hhi, fun q hq =>
    ⟨Int64.le_iff_toInt_le.mpr (hleast q hq), Int64.le_iff_toInt_le.mpr (hgreatest q hq)⟩⟩

/-- The percentages are the last two lines of the summary. -/
theorem exists_text_eq_percentages {report : Report} {p free : Int64}
    (hp : report.totals.usedPercentage = some p)
    (hfree : report.totals.freePercentage = some free) :
    ∃ block, report.text = block
      ++ Text.indented 1 ("Used Percentage: " ++ toString p.toInt ++ "%")
      ++ Text.indented 1 ("Free Percentage: " ++ toString free.toInt ++ "%")
      ++ report.tablePart := by
  obtain rfl : free = Percentage.free p := Totals.eq_free_of_mem hp hfree
  refine ⟨Text.indented 0 ("Capacity information for " ++ report.range.name ++ " workers: ")
    ++ sizeBlock "Total Capacity" report.totals.capacity report.totals.capacityTiers
    ++ sizeBlock "Used Capacity" report.totals.used report.totals.usedTiers, ?_⟩
  rw [text_eq_append, summaryText, percentageLines, hp]
  simp only [String.append_assoc]

end Report

/-- The used percentage of the totals lies between those of the rows, and where no worker uses more
than its capacity the two percentages of the summary are parts of one hundred. -/
theorem percentage_between (displayTiers : List String) (range : Range) {workers : List Worker}
    (h : Worker.Accounted workers) :
    let report := Report.collect displayTiers range workers
    let shown := report.rows.filterMap Row.usedPercentage
    ∃ p, report.totals.usedPercentage = some p ∧
      (∃ lo ∈ shown, ∃ hi ∈ shown, (∀ q ∈ shown, lo ≤ q ∧ q ≤ hi) ∧ lo ≤ p ∧ p ≤ hi) ∧
      ((∀ worker ∈ workers, worker.used ≤ worker.capacity) →
        ∃ free, report.totals.freePercentage = some free ∧
          0 ≤ p.toInt ∧ p.toInt ≤ 100 ∧ 0 ≤ free.toInt ∧ free.toInt ≤ 100 ∧
          p.toInt + free.toInt = 100 ∧
          ∃ block, report.text = block
            ++ Text.indented 1 ("Used Percentage: " ++ toString p.toInt ++ "%")
            ++ Text.indented 1 ("Free Percentage: " ++ toString free.toInt ++ "%")
            ++ report.tablePart) := by
  intro report shown
  have hpos : 0 < report.totals.capacity := Report.collect_capacity_pos displayTiers range h
  have hnonneg : 0 ≤ report.totals.used := Report.collect_used_nonneg displayTiers range h
  obtain ⟨p, hp, -⟩ := Percentage.exists_used report.totals.used (Percentage.ne_zero_of_pos hpos)
  refine ⟨p, hp, ?bounds, fun hpart => ?part⟩
  case bounds =>
    obtain ⟨lo, hlo, hi, hhi, hbounds⟩ :=
      Report.exists_least_greatest (Report.shown_ne_nil displayTiers range h)
    refine ⟨lo, hlo, hi, hhi, hbounds,
      Report.usedPercentage_bounds displayTiers range h hp fun worker hmem q hq => ?_⟩
    exact hbounds q (Report.mem_shown_iff.mpr ⟨worker, hmem, hq⟩)
  case part =>
    have hle : report.totals.used ≤ report.totals.capacity :=
      Report.collect_used_le_capacity displayTiers range h hpart
    obtain ⟨q, free, hq, hfree, hq_nonneg, hq_le, hfree_nonneg, hfree_le, hwhole, -⟩ :=
      Totals.percentages_of_part hnonneg hle hpos
    obtain rfl : p = q := Option.some.inj (hp.symm.trans hq)
    exact ⟨free, hfree, hq_nonneg, hq_le, hfree_nonneg, hfree_le, hwhole,
      Report.exists_text_eq_percentages hp hfree⟩

/-- A worker without capacity, and two whose percentages are cut off. -/
theorem percentage_between_idle :
    let workers : List Worker := [⟨"a", 2, 3, 1, ∅, ∅⟩, ⟨"b", 1, 0, 0, ∅, ∅⟩, ⟨"c", 1, 7, 6, ∅, ∅⟩]
    let report := Report.collect ["MEM"] .all workers
    let shown := report.rows.filterMap Row.usedPercentage
    Worker.Accounted workers ∧ (∀ worker ∈ workers, worker.used ≤ worker.capacity) ∧
      ∃ p free, report.totals.usedPercentage = some p ∧ report.totals.freePercentage = some free ∧
        (∃ lo ∈ shown, ∃ hi ∈ shown, lo ≤ p ∧ p ≤ hi) ∧ p.toInt + free.toInt = 100 := by
  intro workers report shown
  have haccounted : Worker.Accounted workers := by
    constructor <;> decide
  have hpart : ∀ worker ∈ workers, worker.used ≤ worker.capacity := by decide
  obtain ⟨p, hp, ⟨lo, hlo, hi, hhi, -, hbounds⟩, hwhole⟩ :=
    percentage_between ["MEM"] .all haccounted
  obtain ⟨free, hfree, -, -, -, -, hsum, -⟩ := hwhole hpart
  exact ⟨haccounted, hpart, p, free, hp, hfree, ⟨lo, hlo, hi, hhi, hbounds⟩, hsum⟩

end ClusterCapacity
