import ClusterCapacity.ByteSize
import ClusterCapacity.Report.Basic
import ClusterCapacity.Text.Layout

/-!
# The text of a report

A summary block, indented by level, then a table with two lines per worker, then an empty line.
There is no table without workers, and there are no percentages without capacity.
-/

namespace ClusterCapacity.Report

open Text

/-! ### Summary -/

/-- A heading with a size and the tiers below it. -/
def sizeBlock (heading : String) (bytes : Int64) (tiers : TierMap) : String :=
  indented 1 (heading ++ ": " ++ ByteSize.format bytes)
    ++ String.join (tiers.entries.map (fun entry =>
      indented 2 ("Tier: " ++ entry.1 ++ "  Size: " ++ ByteSize.format entry.2)))

/-- The two percentage lines, if the totals have percentages. -/
def percentageLines (totals : Totals) : String :=
  match totals.usedPercentage with
  | none => ""
  | some used =>
    indented 1 ("Used Percentage: " ++ toString used.toInt ++ "%")
      ++ indented 1 ("Free Percentage: " ++ toString (Percentage.free used).toInt ++ "%")

/-- The summary block of the totals. -/
def summaryText (range : Range) (totals : Totals) : String :=
  indented 0 ("Capacity information for " ++ range.name ++ " workers: ")
    ++ sizeBlock "Total Capacity" totals.capacity totals.capacityTiers
    ++ sizeBlock "Used Capacity" totals.used totals.usedTiers
    ++ percentageLines totals

/-! ### Table -/

/-- The widths of the four fixed columns. -/
def nameWidth : Nat := 16
@[inherit_doc nameWidth] def heartbeatWidth : Nat := 16
@[inherit_doc nameWidth] def storageWidth : Nat := 13
@[inherit_doc nameWidth] def totalWidth : Nat := 16

/-- The width of a tier column. -/
def tierWidth : Nat := 13

/-- One line of the table. -/
def tableLine (name heartbeat storage total : String) (tiers : List String) : String :=
  padRight nameWidth name ++ " " ++ padRight heartbeatWidth heartbeat ++ " "
    ++ padRight storageWidth storage ++ " " ++ padRight totalWidth total
    ++ String.join (tiers.map (fun tier => " " ++ padRight tierWidth tier)) ++ "\n"

/-- The two lines of a worker. -/
def rowText (row : Row) : String :=
  tableLine row.host (toString row.heartbeat.toInt) "Capacity" (ByteSize.format row.capacity)
      (row.capacityOnTiers.map ByteSize.format)
    ++ tableLine "" "" "Used" (ByteSize.format row.used ++ row.usedLabel)
      (row.usedOnTiers.map ByteSize.format)

/-- The table of all workers. -/
def tableText (displayTiers : List String) (rows : List Row) : String :=
  tableLine "Worker Name" "Last Heartbeat" "Storage" "Total" displayTiers
    ++ String.join (rows.map rowText)

/-- The whole text of a report. -/
def text (report : Report) : String :=
  summaryText report.range report.totals
    ++ (if report.rows.isEmpty then "" else "\n" ++ tableText report.displayTiers report.rows)
    ++ "\n"

end ClusterCapacity.Report
