import ClusterCapacity.Report.Collect

/-!
# The order of rows

`HeartbeatOrder workers scan` says that `scan` lists the workers by heartbeat and those of equal
heartbeat as they come in `workers`.  The row order of a report is of this kind
(`heartbeatOrder_ordered`), and it is the only one (`HeartbeatOrder.unique`), so it depends on the
workers of each heartbeat only (`ordered_eq_iff`).
-/

namespace ClusterCapacity

namespace Worker

/-- The workers of one heartbeat, as they come. -/
def ofHeartbeat (heartbeat : Int64) (workers : List Worker) : List Worker :=
  workers.filter (fun worker => worker.heartbeat = heartbeat)

/-- `scan` lists the workers by heartbeat, and those of one heartbeat as they come in `workers`. -/
structure HeartbeatOrder (workers scan : List Worker) : Prop where
  ascending : scan.Pairwise (fun a b => a.heartbeat ≤ b.heartbeat)
  ties : ∀ heartbeat, ofHeartbeat heartbeat scan = ofHeartbeat heartbeat workers

theorem mem_ofHeartbeat {heartbeat : Int64} {worker : Worker} {workers : List Worker} :
    worker ∈ ofHeartbeat heartbeat workers ↔ worker ∈ workers ∧ worker.heartbeat = heartbeat := by
  simp [ofHeartbeat]

/-- Lists with the same workers of each heartbeat have the same workers. -/
theorem mem_of_ofHeartbeat_eq {workers others : List Worker}
    (h : ∀ heartbeat, ofHeartbeat heartbeat workers = ofHeartbeat heartbeat others)
    {worker : Worker} (hmem : worker ∈ workers) : worker ∈ others := by
  have hties : worker ∈ ofHeartbeat worker.heartbeat workers := mem_ofHeartbeat.mpr ⟨hmem, rfl⟩
  rw [h] at hties
  exact (mem_ofHeartbeat.mp hties).1

/-! ### Uniqueness -/

/-- The head of an ascending list is heard of no later than any of its members. -/
theorem heartbeat_head_le {worker other : Worker} {rest : List Worker}
    (h : (worker :: rest).Pairwise (fun a b => a.heartbeat ≤ b.heartbeat))
    (hmem : other ∈ worker :: rest) : worker.heartbeat ≤ other.heartbeat := by
  rcases List.mem_cons.mp hmem with rfl | hrest
  · exact Int64.le_refl _
  · exact (List.pairwise_cons.mp h).1 other hrest

theorem eq_of_ascending {a b : List Worker}
    (ha : a.Pairwise (fun a b => a.heartbeat ≤ b.heartbeat))
    (hb : b.Pairwise (fun a b => a.heartbeat ≤ b.heartbeat))
    (h : ∀ heartbeat, ofHeartbeat heartbeat a = ofHeartbeat heartbeat b) : a = b := by
  induction a generalizing b with
  | nil =>
    cases b with
    | nil => rfl
    | cons other _ =>
      have := mem_of_ofHeartbeat_eq (fun heartbeat => (h heartbeat).symm) (List.mem_cons_self ..)
      exact absurd this (List.not_mem_nil (a := other))
  | cons worker rest ih =>
    cases b with
    | nil =>
      have := mem_of_ofHeartbeat_eq h (List.mem_cons_self ..)
      exact absurd this (List.not_mem_nil (a := worker))
    | cons other others =>
      -- each head is a member of the other list, so the heads have one heartbeat
      have hle : worker.heartbeat ≤ other.heartbeat :=
        heartbeat_head_le ha (mem_of_ofHeartbeat_eq (fun heartbeat => (h heartbeat).symm)
          (List.mem_cons_self ..))
      have hge : other.heartbeat ≤ worker.heartbeat :=
        heartbeat_head_le hb (mem_of_ofHeartbeat_eq h (List.mem_cons_self ..))
      have hheartbeat : other.heartbeat = worker.heartbeat := Int64.le_antisymm hge hle
      have hheads := h worker.heartbeat
      simp only [ofHeartbeat, List.filter_cons, hheartbeat, decide_true, ↓reduceIte,
        List.cons.injEq] at hheads
      obtain ⟨rfl, hrest⟩ := hheads
      congr 1
      -- the tails agree on every heartbeat: on that of the head by what is left of its workers
      refine ih (List.pairwise_cons.mp ha).2 (List.pairwise_cons.mp hb).2 fun heartbeat => ?_
      have htail := h heartbeat
      by_cases heq : worker.heartbeat = heartbeat
      · exact heq ▸ hrest
      · simpa [ofHeartbeat, List.filter_cons, heq] using htail

/-- There is only one heartbeat order of given workers. -/
theorem HeartbeatOrder.unique {workers a b : List Worker} (ha : HeartbeatOrder workers a)
    (hb : HeartbeatOrder workers b) : a = b :=
  eq_of_ascending ha.ascending hb.ascending
    (fun heartbeat => (ha.ties heartbeat).trans (hb.ties heartbeat).symm)

end Worker

/-! ### The row order of a report -/

namespace Report

open Worker

theorem heardBefore_trans (a b c : Worker) (hab : heardBefore a b) (hbc : heardBefore b c) :
    heardBefore a c := by
  simp only [heardBefore, decide_eq_true_eq] at *
  exact Int64.le_trans hab hbc

theorem heardBefore_total (a b : Worker) : heardBefore a b || heardBefore b a := by
  simp only [heardBefore, Bool.or_eq_true, decide_eq_true_eq]
  exact Int64.le_total _ _

theorem ordered_perm (workers : List Worker) : (ordered workers).Perm workers :=
  List.mergeSort_perm workers heardBefore

/-- The order of the rows is the heartbeat order of the workers. -/
theorem heartbeatOrder_ordered (workers : List Worker) :
    HeartbeatOrder workers (ordered workers) where
  ascending := by
    have h := List.pairwise_mergeSort heardBefore_trans heardBefore_total workers
    exact h.imp (fun hab => by simpa only [heardBefore, decide_eq_true_eq] using hab)
  ties heartbeat := by
    -- the workers of one heartbeat are in order already, so sorting keeps them as a sublist
    have hsorted : (ofHeartbeat heartbeat workers).Pairwise (fun a b => heardBefore a b) := by
      refine List.pairwise_of_forall_mem_list fun a ha b hb => ?_
      rw [heardBefore, (mem_ofHeartbeat.mp ha).2, (mem_ofHeartbeat.mp hb).2]
      exact decide_eq_true (Int64.le_refl _)
    have hsub := (List.sublist_mergeSort heardBefore_trans heardBefore_total hsorted
      List.filter_sublist).filter (fun worker => worker.heartbeat = heartbeat)
    simp only [ofHeartbeat, List.filter_filter, Bool.and_self] at hsub
    exact (hsub.eq_of_length ((ordered_perm workers).filter _).length_eq.symm).symm

/-- Two lists give the same row order exactly if they agree on the workers of each heartbeat. -/
theorem ordered_eq_iff {workers others : List Worker} :
    ordered workers = ordered others
      ↔ ∀ heartbeat, ofHeartbeat heartbeat workers = ofHeartbeat heartbeat others := by
  have hworkers := heartbeatOrder_ordered workers
  have hothers := heartbeatOrder_ordered others
  constructor
  · intro h heartbeat
    rw [← hworkers.ties, ← hothers.ties, h]
  · intro h
    exact eq_of_ascending hworkers.ascending hothers.ascending
      (fun heartbeat => by rw [hworkers.ties, hothers.ties, h])

end Report

end ClusterCapacity
