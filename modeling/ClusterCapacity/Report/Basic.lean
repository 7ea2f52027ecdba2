import ClusterCapacity.Percentage
import ClusterCapacity.Selection
import ClusterCapacity.TierMap

/-!
# Capacity reports

A report holds the range it covers, the tiers shown as columns, one row per worker and the totals
over all workers.
-/

namespace ClusterCapacity

/-- Sums over every worker of a report. -/
structure Totals where
  capacity : Int64 := 0
  used : Int64 := 0
  capacityTiers : TierMap := ∅
  usedTiers : TierMap := ∅
deriving DecidableEq, Inhabited

namespace Totals

/-- The used percentage of the whole. -/
def usedPercentage (totals : Totals) : Option Int64 :=
  Percentage.used totals.used totals.capacity

/-- The free percentage of the whole. -/
def freePercentage (totals : Totals) : Option Int64 :=
  totals.usedPercentage.map Percentage.free

end Totals

/-- One worker of a report; the tier lists follow the report's display tiers. -/
structure Row where
  host : String
  heartbeat : Int64
  capacity : Int64
  used : Int64
  capacityOnTiers : List Int64
  usedOnTiers : List Int64
  usedPercentage : Option Int64
deriving DecidableEq, Inhabited

/-- What follows the used bytes in the table: the percentage in brackets, if there is one. -/
def Row.usedLabel (row : Row) : String :=
  match row.usedPercentage with
  | some percentage => " (" ++ toString percentage.toInt ++ "%)"
  | none => ""

/-- Everything that one run shows. -/
structure Report where
  range : Range
  displayTiers : List String
  rows : List Row
  totals : Totals
deriving DecidableEq, Inhabited

/-- The tier columns unless the settings name others. -/
def defaultDisplayTiers : List String := ["MEM", "SSD", "HDD"]

end ClusterCapacity
