import ClusterCapacity.Report.Basic
import ClusterCapacity.Worker

/-!
# Collecting a report

The workers are put in the order of their heartbeats, workers of equal heartbeat staying in input
order.  Each becomes a row, and all of them, in that order, are summed into the totals.  A worker
that uses more than its capacity is reported as it is and named in a warning.
-/

namespace ClusterCapacity

/-- A worker that uses more bytes than it has. -/
structure Overuse where
  host : String
  used : Int64
  capacity : Int64
deriving DecidableEq, Repr

namespace Worker

/-- The order of rows: by heartbeat. -/
def heardBefore (a b : Worker) : Bool := a.heartbeat ≤ b.heartbeat

/-- The row of a worker. -/
def row (displayTiers : List String) (worker : Worker) : Row where
  host := worker.host
  heartbeat := worker.heartbeat
  capacity := worker.capacity
  used := worker.used
  capacityOnTiers := displayTiers.map worker.capacityTiers.getD
  usedOnTiers := displayTiers.map worker.usedTiers.getD
  usedPercentage := Percentage.used worker.used worker.capacity

/-- The overuse of a worker, if it uses more than its capacity. -/
def overuse? (worker : Worker) : Option Overuse :=
  if worker.capacity < worker.used then some ⟨worker.host, worker.used, worker.capacity⟩ else none

end Worker

/-- Adds one worker to the totals. -/
def Totals.addWorker (totals : Totals) (worker : Worker) : Totals where
  capacity := totals.capacity + worker.capacity
  used := totals.used + worker.used
  capacityTiers := totals.capacityTiers.merge worker.capacityTiers
  usedTiers := totals.usedTiers.merge worker.usedTiers

/-- The totals over a list of workers, added up in list order. -/
def Totals.ofWorkers (workers : List Worker) : Totals := workers.foldl Totals.addWorker {}

namespace Report

/-- The workers in row order. -/
def ordered (workers : List Worker) : List Worker := workers.mergeSort Worker.heardBefore

/-- The report over the given workers. -/
def collect (displayTiers : List String) (range : Range) (workers : List Worker) : Report where
  range := range
  displayTiers := displayTiers
  rows := (ordered workers).map (Worker.row displayTiers)
  totals := Totals.ofWorkers (ordered workers)

/-- The overuse found while collecting, in row order. -/
def overuses (workers : List Worker) : List Overuse := (ordered workers).filterMap Worker.overuse?

end Report

end ClusterCapacity
