import ClusterCapacity.Proofs.Json.Sorted
import ClusterCapacity.Proofs.Report.Totals
import ClusterCapacity.Report.Document
import ClusterCapacity.Report.Text

/-!
# Reports do not depend on the order of the workers

`collect_perm`: reports over permuted workers have the same totals, up to the order of the tiers,
and the same rows, up to their order.  The exported totals do not even show that much, because
their members are sorted.  If the permutation keeps the workers of each heartbeat in order, the
reports are equal: the row order is then the same by `Report.ordered_eq_iff`.
-/

namespace ClusterCapacity

open Worker (ofHeartbeat)

/-! ### Totals of permuted workers -/

namespace Totals

/-- Totals that differ in the order of their tiers only. -/
structure Similar (a b : Totals) : Prop where
  capacity : a.capacity = b.capacity
  used : a.used = b.used
  capacityTiers : a.capacityTiers.entries.Perm b.capacityTiers.entries
  usedTiers : a.usedTiers.entries.Perm b.usedTiers.entries

theorem similar_ofWorkers {workers others : List Worker} (h : workers.Perm others) :
    Similar (ofWorkers workers) (ofWorkers others) := by
  rw [ofWorkers_eq, ofWorkers_eq]
  constructor
  · exact congrArg Int64.ofInt (Worker.sumOf_perm h Worker.capacity)
  · exact congrArg Int64.ofInt (Worker.sumOf_perm h Worker.used)
  · exact TierMap.perm_entries_ofList (Worker.reported_perm h Worker.capacityTiers)
  · exact TierMap.perm_entries_ofList (Worker.reported_perm h Worker.usedTiers)

end Totals

/-! ### The exported totals -/

theorem TierMap.sorted_toJson_perm {a b : TierMap} (h : a.entries.Perm b.entries) :
    a.toJson.sorted = b.toJson.sorted := by
  refine Json.sorted_obj_perm (h.map _) ?_
  rw [List.map_map]
  exact a.nodup

/-- The totals as the summary exports them, before their members are sorted. -/
def Totals.summaryObject (totals : Totals) : Json := .obj [
  ("capacityBytes", .int64 totals.capacity),
  ("usedBytes", .int64 totals.used),
  ("capacityBytesOnTiers", totals.capacityTiers.toJson),
  ("usedBytesOnTiers", totals.usedTiers.toJson),
  ("usedPercentage", .optional totals.usedPercentage),
  ("freePercentage", .optional totals.freePercentage)]

/-- The summary holds the sorted value of each of its members. -/
theorem Report.member?_summary (report : Report) (name : String) :
    report.summary.member? name = (report.summaryMembers.lookup name).map Json.sorted := by
  have hnodup : (report.summaryMembers.map Prod.fst).Nodup := by
    simp [Report.summaryMembers]
  rw [Report.summary, Json.member?_sorted_obj hnodup]

theorem Report.member?_summary_totals (report : Report) :
    report.summary.member? "totals" = some report.totals.summaryObject.sorted :=
  report.member?_summary "totals"

/-- The order of the tiers does not show in the exported totals. -/
theorem Totals.Similar.sorted_summaryObject {a b : Totals} (h : Similar a b) :
    a.summaryObject.sorted = b.summaryObject.sorted := by
  have hcapacityTiers := TierMap.sorted_toJson_perm h.capacityTiers
  have husedTiers := TierMap.sorted_toJson_perm h.usedTiers
  -- the percentages depend on the numbers only
  have hpercentage : a.usedPercentage = b.usedPercentage := by
    rw [Totals.usedPercentage, Totals.usedPercentage, h.capacity, h.used]
  simp only [Totals.summaryObject, Totals.freePercentage, hpercentage, h.capacity, h.used,
    Json.sorted, Json.sortedMembers, hcapacityTiers, husedTiers]

/-! ### Reports over permuted workers -/

/-- Reports over permuted workers have the same totals and the same rows up to order, and they
export the same totals.  They are equal if the workers of each heartbeat come in the same order. -/
theorem collect_perm {workers others : List Worker} (h : workers.Perm others)
    (displayTiers : List String) (range : Range) :
    let report := Report.collect displayTiers range workers
    let other := Report.collect displayTiers range others
    report.totals.capacity = other.totals.capacity ∧
      report.totals.used = other.totals.used ∧
      report.totals.capacityTiers.entries.Perm other.totals.capacityTiers.entries ∧
      report.totals.usedTiers.entries.Perm other.totals.usedTiers.entries ∧
      report.rows.Perm other.rows ∧
      (∃ totals, report.summary.member? "totals" = some totals ∧
        other.summary.member? "totals" = some totals) ∧
      ((∀ heartbeat, ofHeartbeat heartbeat workers = ofHeartbeat heartbeat others) →
        report = other ∧ report.text = other.text ∧
          report.summary.compact = other.summary.compact) := by
  intro report other
  -- totals are taken over the ordered workers, whose order may differ between equal heartbeats
  have hordered : (Report.ordered workers).Perm (Report.ordered others) :=
    (Report.ordered_perm workers).trans (h.trans (Report.ordered_perm others).symm)
  have hsimilar : Totals.Similar report.totals other.totals := Totals.similar_ofWorkers hordered
  refine ⟨hsimilar.capacity, hsimilar.used, hsimilar.capacityTiers, hsimilar.usedTiers,
    hordered.map _, ⟨report.totals.summaryObject.sorted, ?_, ?_⟩, fun hties => ?_⟩
  · exact report.member?_summary_totals
  · rw [other.member?_summary_totals, hsimilar.sorted_summaryObject]
  · have heq : report = other := by
      simp only [report, other, Report.collect, Report.ordered_eq_iff.mpr hties]
    rw [heq]
    exact ⟨rfl, rfl, rfl⟩

/-- Two workers of different heartbeats change places. -/
theorem collect_perm_swap :
    let first : Worker := ⟨"a", 5, 10, 1, TierMap.ofList [("HDD", 10)], ∅⟩
    let second : Worker := ⟨"b", 1, 20, 2, TierMap.ofList [("MEM", 5), ("HDD", 15)], ∅⟩
    let report := Report.collect ["MEM"] .all [first, second]
    let other := Report.collect ["MEM"] .all [second, first]
    [first, second].Perm [second, first] ∧
      (∀ heartbeat, ofHeartbeat heartbeat [first, second] = ofHeartbeat heartbeat [second, first]) ∧
      report = other := by
  intro first second report other
  have hswap : [first, second].Perm [second, first] := List.Perm.swap ..
  have hties : ∀ heartbeat,
      ofHeartbeat heartbeat [first, second] = ofHeartbeat heartbeat [second, first] := by
    intro heartbeat
    by_cases h : first.heartbeat = heartbeat
    · subst h
      decide
    · simp [ofHeartbeat, List.filter_cons, h]
  exact ⟨hswap, hties, ((collect_perm hswap ["MEM"] .all).2.2.2.2.2.2 hties).1⟩

end ClusterCapacity
