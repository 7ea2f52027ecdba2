import ClusterCapacity.Proofs.Text.Lines
import ClusterCapacity.Proofs.Text.Numbers
import ClusterCapacity.Report.Text

/-!
# The lines of a report

The text of a report as a list of lines (`text_eq_joinLines`).  If no name in the report has a line
break, none of the lines has one (`newline_not_mem_lines`), so the lines can be told from the text.
-/

namespace ClusterCapacity.Report

open Text

/-! ### The lines of a report -/

/-- The first line. -/
def headingLine (range : Range) : String :=
  "Capacity information for " ++ range.name ++ " workers: "

/-- The line of a whole size in the summary. -/
def sizeLine (title : String) (bytes : Int64) : String :=
  spaces (1 * indentSize) ++ (title ++ ": " ++ ByteSize.format bytes)

/-- The line of a tier in the summary. -/
def tierLine (entry : String × Int64) : String :=
  spaces (2 * indentSize) ++ ("Tier: " ++ entry.1 ++ "  Size: " ++ ByteSize.format entry.2)

/-- The line of a percentage in the summary. -/
def percentageLine (title : String) (percentage : Int64) : String :=
  spaces (1 * indentSize) ++ (title ++ toString percentage.toInt ++ "%")

/-- The lines of the percentages, if there are any. -/
def percentageList (totals : Totals) : List String :=
  match totals.usedPercentage with
  | none => []
  | some used => [percentageLine "Used Percentage: " used,
      percentageLine "Free Percentage: " (Percentage.free used)]

/-- A line of the table. -/
def tableRow (name heartbeat storage total : String) (tiers : List String) : String :=
  padRight nameWidth name ++ " " ++ padRight heartbeatWidth heartbeat ++ " "
    ++ padRight storageWidth storage ++ " " ++ padRight totalWidth total ++ cells tierWidth tiers

/-- The line of the capacity of a worker. -/
def capacityRow (row : Row) : String :=
  tableRow row.host (toString row.heartbeat.toInt) "Capacity" (ByteSize.format row.capacity)
    (row.capacityOnTiers.map ByteSize.format)

/-- The line of what a worker uses. -/
def usedRow (row : Row) : String :=
  tableRow "" "" "Used" (ByteSize.format row.used ++ row.usedLabel)
    (row.usedOnTiers.map ByteSize.format)

/-- The line above the workers. -/
def headerRow (displayTiers : List String) : String :=
  tableRow "Worker Name" "Last Heartbeat" "Storage" "Total" displayTiers

/-- The lines of the table, if there are workers. -/
def tableList (displayTiers : List String) (rows : List Row) : List String :=
  if rows.isEmpty then []
  else "" :: headerRow displayTiers :: rows.flatMap (fun row => [capacityRow row, usedRow row])

/-- The lines of the text of a report. -/
def lines (report : Report) : List String :=
  headingLine report.range :: sizeLine "Total Capacity" report.totals.capacity ::
    (report.totals.capacityTiers.entries.map tierLine ++
      sizeLine "Used Capacity" report.totals.used ::
        (report.totals.usedTiers.entries.map tierLine ++
          (percentageList report.totals ++ (tableList report.displayTiers report.rows ++ [""]))))

theorem sizeBlock_eq_joinLines (title : String) (bytes : Int64) (tiers : TierMap) :
    sizeBlock title bytes tiers =
      joinLines (sizeLine title bytes :: tiers.entries.map tierLine) := by
  rw [joinLines_cons, joinLines, List.map_map, ← String.append_assoc]
  rfl

theorem percentageLines_eq_joinLines (totals : Totals) :
    percentageLines totals = joinLines (percentageList totals) := by
  rw [percentageLines, percentageList]
  cases totals.usedPercentage with
  | none => rfl
  | some used =>
    rw [joinLines_cons, joinLines_cons, joinLines_nil, String.append_empty, ← String.append_assoc]
    rfl

theorem rowText_eq_joinLines (row : Row) :
    rowText row = joinLines [capacityRow row, usedRow row] := by
  rw [joinLines_cons, joinLines_cons, joinLines_nil, String.append_empty, ← String.append_assoc]
  rfl

theorem tableText_eq_joinLines (displayTiers : List String) (rows : List Row) :
    (if rows.isEmpty then "" else "\n" ++ tableText displayTiers rows)
      = joinLines (tableList displayTiers rows) := by
  rw [tableList]
  split
  · rfl
  · have hrows : String.join (rows.map rowText)
        = joinLines (rows.flatMap (fun row => [capacityRow row, usedRow row])) := by
      rw [joinLines_flatMap, List.map_congr_left (fun row _ => rowText_eq_joinLines row)]
    have hheader : tableLine "Worker Name" "Last Heartbeat" "Storage" "Total" displayTiers
        = headerRow displayTiers ++ "\n" := rfl
    rw [tableText, hrows, hheader, joinLines_cons, joinLines_cons, String.empty_append,
      String.append_assoc]

/-- A report shows its lines. -/
theorem text_eq_joinLines (report : Report) : report.text = joinLines report.lines := by
  have hheading (range : Range) :
      indented 0 ("Capacity information for " ++ range.name ++ " workers: ") =
        headingLine range ++ "\n" := rfl
  rw [text, summaryText, hheading, sizeBlock_eq_joinLines, sizeBlock_eq_joinLines,
    percentageLines_eq_joinLines, tableText_eq_joinLines]
  simp only [lines, joinLines_cons, joinLines_append, String.append_assoc]
  rfl

/-! ### Line breaks -/

/-- Whether the names in a report cannot be taken for the layout around them: none has a line
break, and those in the table have no space. -/
structure Readable (report : Report) : Prop where
  capacityTiers : ∀ tier ∈ report.totals.capacityTiers.tiers, '\n' ∉ tier.toList
  usedTiers : ∀ tier ∈ report.totals.usedTiers.tiers, '\n' ∉ tier.toList
  hosts : ∀ row ∈ report.rows, ' ' ∉ row.host.toList ∧ '\n' ∉ row.host.toList
  displayTiers : ∀ tier ∈ report.displayTiers, ' ' ∉ tier.toList ∧ '\n' ∉ tier.toList

theorem not_mem_tableRow {c : Char} (h : c ≠ ' ') {name heartbeat storage total : String}
    {tiers : List String} (hname : c ∉ name.toList) (hheartbeat : c ∉ heartbeat.toList)
    (hstorage : c ∉ storage.toList) (htotal : c ∉ total.toList)
    (htiers : ∀ tier ∈ tiers, c ∉ tier.toList) :
    c ∉ (tableRow name heartbeat storage total tiers).toList := by
  have hspace : c ∉ " ".toList := by simpa using h
  simp only [tableRow, not_mem_append]
  exact ⟨⟨⟨⟨⟨⟨⟨not_mem_padRight h _ hname, hspace⟩, not_mem_padRight h _ hheartbeat⟩, hspace⟩,
    not_mem_padRight h _ hstorage⟩, hspace⟩, not_mem_padRight h _ htotal⟩, not_mem_cells h _ htiers⟩

theorem not_mem_formats {c : Char} (h : ByteSize.isSizeCharacter c = false)
    (counts : List Int64) : ∀ text ∈ counts.map ByteSize.format, c ∉ text.toList := by
  rw [List.forall_mem_map]
  exact fun count _ => ByteSize.not_mem_format h count

theorem newline_not_mem_usedLabel (row : Row) : '\n' ∉ row.usedLabel.toList := by
  rw [Row.usedLabel]
  split
  · simp only [not_mem_append]
    exact ⟨⟨by decide, not_mem_toString rfl _⟩, by decide⟩
  · exact List.not_mem_nil

theorem newline_not_mem_sizeLine {title : String} (h : '\n' ∉ title.toList) (bytes : Int64) :
    '\n' ∉ (sizeLine title bytes).toList := by
  simp only [sizeLine, not_mem_append]
  exact ⟨not_mem_spaces (by decide) _, ⟨h, by decide⟩, ByteSize.not_mem_format rfl _⟩

theorem newline_not_mem_tierLines {tiers : TierMap} (h : ∀ tier ∈ tiers.tiers, '\n' ∉ tier.toList) :
    ∀ line ∈ tiers.entries.map tierLine, '\n' ∉ line.toList := by
  rw [List.forall_mem_map]
  intro entry hentry
  simp only [tierLine, not_mem_append]
  exact ⟨not_mem_spaces (by decide) _, ⟨⟨by decide, h entry.1 (List.mem_map_of_mem hentry)⟩,
    by decide⟩, ByteSize.not_mem_format rfl _⟩

theorem newline_not_mem_percentageLine {title : String} (h : '\n' ∉ title.toList)
    (percentage : Int64) : '\n' ∉ (percentageLine title percentage).toList := by
  simp only [percentageLine, not_mem_append]
  exact ⟨not_mem_spaces (by decide) _, ⟨h, not_mem_toString rfl _⟩, by decide⟩

theorem newline_not_mem_headerRow {displayTiers : List String}
    (h : ∀ tier ∈ displayTiers, '\n' ∉ tier.toList) : '\n' ∉ (headerRow displayTiers).toList :=
  not_mem_tableRow (by decide) (by decide) (by decide) (by decide) (by decide) h

theorem newline_not_mem_capacityRow {row : Row} (h : '\n' ∉ row.host.toList) :
    '\n' ∉ (capacityRow row).toList :=
  not_mem_tableRow (by decide) h (not_mem_toString rfl _) (by decide)
    (ByteSize.not_mem_format rfl _) (not_mem_formats rfl _)

theorem newline_not_mem_usedRow (row : Row) : '\n' ∉ (usedRow row).toList :=
  not_mem_tableRow (by decide) (by decide) (by decide) (by decide)
    (not_mem_append.mpr ⟨ByteSize.not_mem_format rfl _, newline_not_mem_usedLabel row⟩)
    (not_mem_formats rfl _)

/-- No line of a report has a line break of its own. -/
theorem newline_not_mem_lines {report : Report} (h : report.Readable) :
    ∀ line ∈ report.lines, '\n' ∉ line.toList := by
  have hheading : '\n' ∉ (headingLine report.range).toList := by
    cases report.range <;> decide
  have hpercentages : ∀ line ∈ percentageList report.totals, '\n' ∉ line.toList := by
    rw [percentageList]
    split
    · exact List.forall_mem_nil _
    · simp only [List.forall_mem_cons]
      exact ⟨newline_not_mem_percentageLine (by decide) _,
        newline_not_mem_percentageLine (by decide) _, List.forall_mem_nil _⟩
  have htable : ∀ line ∈ tableList report.displayTiers report.rows, '\n' ∉ line.toList := by
    rw [tableList]
    split
    · exact List.forall_mem_nil _
    · have hheader := newline_not_mem_headerRow (fun tier htier => (h.displayTiers tier htier).2)
      simp only [List.forall_mem_cons, List.forall_mem_flatMap]
      refine ⟨by decide, hheader, fun row hrow => ⟨?_, ?_, ?_⟩⟩
      · exact newline_not_mem_capacityRow (h.hosts row hrow).2
      · exact newline_not_mem_usedRow row
      · exact List.forall_mem_nil _
  simp only [lines, List.forall_mem_cons, List.forall_mem_append]
  exact ⟨hheading, newline_not_mem_sizeLine (by decide) _,
    newline_not_mem_tierLines h.capacityTiers, newline_not_mem_sizeLine (by decide) _,
    newline_not_mem_tierLines h.usedTiers, hpercentages, htable, by simp⟩

end ClusterCapacity.Report
