import ClusterCapacity.Selection
import ClusterCapacity.TierMap

/-!
# Workers and snapshots

A worker reports when it was last heard of and how many bytes it holds and uses, in all and by
tier.  The numbers are taken as they come: nothing relates used bytes to capacity or tiers to the
whole.  A snapshot lists the live and the lost workers of a cluster.
-/

namespace ClusterCapacity

/-- What one worker reports. -/
structure Worker where
  host : String
  /-- Seconds since the worker was last heard of. -/
  heartbeat : Int64
  capacity : Int64
  used : Int64
  capacityTiers : TierMap := ∅
  usedTiers : TierMap := ∅
deriving DecidableEq, Inhabited

/-- The workers of a cluster by liveness. -/
structure Snapshot where
  live : List Worker := []
  lost : List Worker := []
deriving DecidableEq, Inhabited

namespace Snapshot

/-- All workers, the live ones first. -/
def workers (snapshot : Snapshot) : List Worker := snapshot.live ++ snapshot.lost

/-- The workers that a query asks for, in snapshot order. -/
def select (snapshot : Snapshot) (query : Query) : List Worker :=
  match query.range with
  | .all => snapshot.workers
  | .live => snapshot.live
  | .lost => snapshot.lost
  | .specified => snapshot.workers.filter (fun worker => query.addresses.contains worker.host)

end Snapshot

end ClusterCapacity
