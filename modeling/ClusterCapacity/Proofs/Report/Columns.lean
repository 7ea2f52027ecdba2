import ClusterCapacity.Proofs.ByteSize.Accuracy
import ClusterCapacity.Proofs.Percentage
import ClusterCapacity.Proofs.Report.HeartbeatOrder
import ClusterCapacity.Proofs.Report.Lines
import ClusterCapacity.Proofs.TierMap.Sums

/-!
# The columns of the worker table

If names and heartbeats are not too long and no worker uses more than its capacity, every line of
the worker table is aligned (`Report.table_aligned`): each cell starts at the column of its kind
(`columnStart`) and ends within it.

A line is followed from the left (`laid`): a cell that fits its column is filled up to the width of
the column exactly, so that the next one starts where it should.  That sizes fit is a matter of the
largest unit: no count has more than 8192 petabytes, which take nine characters
(`ByteSize.length_format_le`) and leave room for a percentage of at most one hundred.
-/

namespace ClusterCapacity

/-! ### The lengths of sizes -/

theorem length_toString_le {n width : ℕ} (hwidth : 0 < width) (h : n < 10 ^ width) :
    (toString n).length ≤ width := by
  have hdigits : (toString n).toList = Nat.toDigits 10 n := Nat.toList_repr
  rw [← String.length_toList, hdigits]
  exact (Nat.length_toDigits_le_iff (by decide) hwidth).mpr h

/-- The text of a number that is not negative. -/
theorem toString_eq_of_nonneg {value : ℤ} (h : 0 ≤ value) :
    toString value = toString value.toNat := by
  obtain ⟨n, rfl⟩ := Int.eq_ofNat_of_zero_le h
  rfl

namespace ByteSize

open SizeUnit (ofCount)

/-- No count has more than 8192 of its unit. -/
theorem hundredths_nearestDouble_le {n : ℕ} (h : n < 2 ^ 63) :
    hundredths (ofCount (Decimal.nearestDouble n)) (Decimal.nearestDouble n) ≤ 819200 := by
  by_cases hpeta : ofCount (Decimal.nearestDouble n) = .peta
  · rw [hpeta]
    exact hundredths_le (n := 8192) (Decimal.nearestDouble_le_of_lt h)
  · exact (hundredths_ofCount_le hpeta).trans (by norm_num)

theorem length_scaledText_le (unit : SizeUnit) {h : ℕ} (hle : h ≤ 819200) :
    (scaledText unit h).length ≤ 9 := by
  have hwhole : (toString (h / 100)).length ≤ 4 := length_toString_le (by decide) (by omega)
  have hplaces : (Decimal.paddedDigits 2 (h % 100)).length = 2 :=
    Decimal.length_paddedDigits 2 (by decide) (Nat.mod_lt h (by decide))
  have hsymbol : unit.symbol.length = 2 := by cases unit <;> rfl
  have hpoint : ".".length = 1 := rfl
  simp only [scaledText, String.length_append, hplaces, hsymbol, hpoint]
  omega

/-- The size of a count that is not negative has at most nine characters. -/
theorem length_format_le {bytes : Int64} (h : 0 ≤ bytes) : (format bytes).length ≤ 9 := by
  rw [Int64.le_iff_toInt_le] at h
  rcases le_or_gt bytes.toInt 5120 with hsmall | hlarge
  · have hdigits : (toString bytes.toInt.toNat).length ≤ 4 :=
      length_toString_le (by decide) (by omega)
    have hsymbol : "B".length = 1 := rfl
    rw [format_of_le hsmall, toString_eq_of_nonneg h, String.length_append, hsymbol]
    omega
  · have hupper := Int64.toInt_lt bytes
    rw [format_of_lt hlarge]
    exact length_scaledText_le _ (hundredths_nearestDouble_le (by omega))

end ByteSize

namespace Percentage

/-- A part of a capacity has a percentage from zero to one hundred. -/
theorem used_bounds {used capacity percentage : Int64} (hused : 0 ≤ used) (h : used ≤ capacity)
    (hpercentage : Percentage.used used capacity = some percentage) :
    0 ≤ percentage.toInt ∧ percentage.toInt ≤ 100 := by
  have hcapacity : capacity ≠ 0 := by
    intro hzero
    rw [used_eq_none_iff.mpr hzero] at hpercentage
    exact Option.some_ne_none _ hpercentage.symm
  obtain ⟨other, hother, hvalue⟩ := exists_used used hcapacity
  obtain rfl : percentage = other := Option.some.inj (hpercentage.symm.trans hother)
  have hne := toInt_ne_zero hcapacity
  rw [Int64.le_iff_toInt_le] at hused h
  rw [Int64.toInt_zero] at hused
  obtain ⟨hlower, hupper, -⟩ := truncated_bounds hused h (by omega)
  omega

end Percentage

/-- The percentage of a part takes at most seven characters. -/
theorem Row.length_usedLabel_le {row : Row}
    (h : ∀ percentage ∈ row.usedPercentage, 0 ≤ percentage.toInt ∧ percentage.toInt ≤ 100) :
    row.usedLabel.length ≤ 7 := by
  rw [Row.usedLabel]
  split
  · rename_i percentage hpercentage
    obtain ⟨hlower, hupper⟩ := h percentage hpercentage
    have hdigits : (toString percentage.toInt.toNat).length ≤ 3 :=
      length_toString_le (by decide) (by omega)
    have hopen : " (".length = 2 := rfl
    have hclose : "%)".length = 2 := rfl
    rw [toString_eq_of_nonneg hlower]
    simp only [String.length_append, hopen, hclose]
    omega
  · exact Nat.zero_le _

namespace Report

open Text

/-! ### Columns -/

/-- The column at which a cell starts: those of the name, the heartbeat, the storage and the total,
then those of the tiers. -/
def columnStart : ℕ → ℕ
  | 0 => 0
  | 1 => 17
  | 2 => 34
  | 3 => 48
  | j + 4 => 65 + 14 * j

/-- The characters that a cell may have. -/
def columnWidth : ℕ → ℕ
  | 0 => 16
  | 1 => 16
  | 2 => 13
  | 3 => 16
  | _ + 4 => 13

/-- A column follows the one before it after a space. -/
theorem columnStart_succ (i : ℕ) : columnStart (i + 1) = columnStart i + columnWidth i + 1 := by
  match i with
  | 0 | 1 | 2 | 3 => rfl
  | j + 4 =>
    simp only [columnStart, columnWidth]
    omega

theorem columnStart_pos {i : ℕ} (h : 0 < i) : 0 < columnStart i := by
  obtain ⟨j, rfl⟩ := Nat.exists_eq_succ_of_ne_zero h.ne'
  rw [Nat.succ_eq_add_one, columnStart_succ]
  exact Nat.succ_pos _

/-- Whether each cell fits in its column, the first one being in column `start`. -/
def Fit (start : ℕ) : List String → Prop
  | [] => True
  | cell :: rest => cell.length ≤ columnWidth start ∧ Fit (start + 1) rest

/-- Whether a line with `k` tiers shows the given cells, each from the start of its column on and
filled with spaces to the end of the column, with one space between the columns. -/
structure Aligned (k : ℕ) (cells : List String) (line : String) : Prop where
  count : cells.length = 4 + k
  length : line.length = 64 + 14 * k
  fit : ∀ i cell, cells[i]? = some cell → cell.length ≤ columnWidth i
  shown : ∀ i cell, cells[i]? = some cell →
    (line.toList.drop (columnStart i)).take (columnWidth i)
      = cell.toList ++ List.replicate (columnWidth i - cell.length) ' '
  separated : ∀ i, 0 < i → i < cells.length → line.toList[columnStart i - 1]? = some ' '

/-! ### Cells from left to right -/

/-- Cells that are filled up to the widths of their columns, a space before each of them. -/
def laid (start : ℕ) : List String → String
  | [] => ""
  | cell :: rest => " " ++ padRight (columnWidth start) cell ++ laid (start + 1) rest

variable {start : ℕ} {cells : List String}

theorem cells_eq_laid (j : ℕ) (tiers : List String) :
    Text.cells tierWidth tiers = laid (j + 4) tiers := by
  induction tiers generalizing j with
  | nil => rfl
  | cons tier rest ih =>
    rw [cells_cons, laid, ih (j + 1), String.append_assoc]
    rfl

theorem space_append_tableRow (name heartbeat storage total : String) (tiers : List String) :
    " " ++ tableRow name heartbeat storage total tiers
      = laid 0 (name :: heartbeat :: storage :: total :: tiers) := by
  simp only [tableRow, laid, cells_eq_laid 0, String.append_assoc]
  rfl

theorem length_padRight_of_le {width : ℕ} {text : String} (h : text.length ≤ width) :
    (padRight width text).length = width := by
  rw [length_padRight, Nat.max_eq_left h]

/-- A cell that fits ends just before the next column. -/
theorem columnStart_add_length_cell {cell : String} (h : cell.length ≤ columnWidth start) :
    columnStart start + (" " ++ padRight (columnWidth start) cell).length
      = columnStart (start + 1) := by
  have hspace : " ".length = 1 := rfl
  rw [String.length_append, hspace, length_padRight_of_le h, columnStart_succ]
  omega

theorem columnStart_add_length_laid (h : Fit start cells) :
    columnStart start + (laid start cells).length = columnStart (start + cells.length) := by
  induction cells generalizing start with
  | nil => rfl
  | cons cell rest ih =>
    have hindex : start + (rest.length + 1) = start + 1 + rest.length := by omega
    have hcell := columnStart_add_length_cell h.1
    have hrest := ih h.2
    rw [List.length_cons, laid, String.length_append, hindex]
    omega

/-- What stands before a cell takes the columns before that of the cell. -/
theorem exists_laid_eq (h : Fit start cells) {i : ℕ} {cell : String}
    (hcell : cells[i]? = some cell) :
    cell.length ≤ columnWidth (start + i) ∧ ∃ front back,
      laid start cells = front ++ (" " ++ padRight (columnWidth (start + i)) cell ++ back) ∧
      columnStart start + front.length = columnStart (start + i) := by
  induction cells generalizing start i with
  | nil => exact absurd hcell (by simp)
  | cons first rest ih =>
    cases i with
    | zero =>
      obtain rfl : first = cell := Option.some.inj hcell
      exact ⟨h.1, "", laid (start + 1) rest, rfl, rfl⟩
    | succ i =>
      have hindex : start + (i + 1) = start + 1 + i := by omega
      obtain ⟨hle, front, back, hlaid, hfront⟩ := ih h.2 hcell
      have hfirst := columnStart_add_length_cell h.1
      rw [hindex]
      refine ⟨hle, " " ++ padRight (columnWidth start) first ++ front, back, ?_, ?_⟩
      · rw [laid, hlaid]
        simp only [String.append_assoc]
      · rw [String.length_append]
        omega

/-- A line of cells that fit is aligned. -/
theorem aligned_of_laid {k : ℕ} {line : String} (hcount : cells.length = 4 + k)
    (hline : " " ++ line = laid 0 cells) (h : Fit 0 cells) : Aligned k cells line := by
  -- the cells after the space that is put in front of the line
  have hcells {i : ℕ} {cell : String} (hcell : cells[i]? = some cell) :
      cell.length ≤ columnWidth i ∧ ∃ front back : List Char, front.length = columnStart i ∧
        ' ' :: line.toList = front ++ ' ' :: ((padRight (columnWidth i) cell).toList ++ back) := by
    obtain ⟨hle, front, back, hlaid, hfront⟩ := exists_laid_eq h hcell
    rw [Nat.zero_add] at hle hlaid hfront
    refine ⟨hle, front.toList, back.toList, ?_, ?_⟩
    · rw [String.length_toList, ← hfront]
      exact (Nat.zero_add _).symm
    · rw [← hline] at hlaid
      simpa using congrArg String.toList hlaid
  constructor
  case count => exact hcount
  case length =>
    have hlength := columnStart_add_length_laid h
    have hspace : " ".length = 1 := rfl
    have hzero : columnStart 0 = 0 := rfl
    have hend : columnStart (k + 4) = 65 + 14 * k := rfl
    rw [← hline, String.length_append, hspace, hzero, hcount, Nat.zero_add, Nat.zero_add,
      Nat.add_comm 4, hend] at hlength
    omega
  case fit => exact fun i cell hcell => (hcells hcell).1
  case shown =>
    intro i cell hcell
    obtain ⟨hle, front, back, hfront, hsplit⟩ := hcells hcell
    have hpadded := length_padRight_of_le hle
    rw [← String.length_toList] at hpadded
    have hdrop : line.toList.drop (columnStart i)
        = (padRight (columnWidth i) cell).toList ++ back := by
      calc line.toList.drop (columnStart i)
          = (' ' :: line.toList).drop (front.length + 1) := by rw [hfront, List.drop_succ_cons]
        _ = (padRight (columnWidth i) cell).toList ++ back := by
          rw [hsplit, List.drop_length_add_append, List.drop_succ_cons, List.drop_zero]
    rw [hdrop, List.take_left' hpadded, padRight, String.toList_append, toList_spaces]
  case separated =>
    intro i hpos hlt
    obtain ⟨-, front, back, hfront, hsplit⟩ := hcells (List.getElem?_eq_getElem hlt)
    obtain ⟨before, hbefore⟩ := Nat.exists_eq_succ_of_ne_zero (columnStart_pos hpos).ne'
    have hspace : (' ' :: line.toList)[columnStart i]? = some ' ' := by
      rw [hsplit, ← hfront, List.getElem?_append_right le_rfl, Nat.sub_self]
      rfl
    rw [hbefore] at hspace ⊢
    exact hspace

/-! ### The lines of the table -/

/-- The cells above the workers. -/
def headerCells (displayTiers : List String) : List String :=
  "Worker Name" :: "Last Heartbeat" :: "Storage" :: "Total" :: displayTiers

/-- The cells of the capacity of a worker. -/
def capacityCells (row : Row) : List String :=
  row.host :: toString row.heartbeat.toInt :: "Capacity" :: ByteSize.format row.capacity
    :: row.capacityOnTiers.map ByteSize.format

/-- The cells of what a worker uses; the percentage stands in the cell of the total. -/
def usedCells (row : Row) : List String :=
  "" :: "" :: "Used" :: (ByteSize.format row.used ++ row.usedLabel)
    :: row.usedOnTiers.map ByteSize.format

/-- The cells of the table, line by line. -/
def tableCells (report : Report) : List (List String) :=
  headerCells report.displayTiers
    :: report.rows.flatMap (fun row => [capacityCells row, usedCells row])

theorem fit_tiers (j : ℕ) {tiers : List String} (h : ∀ tier ∈ tiers, tier.length ≤ 13) :
    Fit (j + 4) tiers := by
  induction tiers generalizing j with
  | nil => trivial
  | cons tier rest ih =>
    obtain ⟨htier, hrest⟩ := List.forall_mem_cons.mp h
    exact ⟨htier, ih (j + 1) hrest⟩

theorem aligned_tableRow {k : ℕ} {name heartbeat storage total : String} {tiers : List String}
    (hname : name.length ≤ 16) (hheartbeat : heartbeat.length ≤ 16) (hstorage : storage.length ≤ 13)
    (htotal : total.length ≤ 16) (htiers : ∀ tier ∈ tiers, tier.length ≤ 13)
    (hcount : tiers.length = k) :
    Aligned k (name :: heartbeat :: storage :: total :: tiers)
      (tableRow name heartbeat storage total tiers) := by
  refine aligned_of_laid ?_ (space_append_tableRow _ _ _ _ _)
    ⟨hname, hheartbeat, hstorage, htotal, fit_tiers 0 htiers⟩
  rw [← hcount]
  exact Nat.add_comm _ 4

theorem aligned_headerRow {displayTiers : List String}
    (h : ∀ tier ∈ displayTiers, tier.length ≤ 13) :
    Aligned displayTiers.length (headerCells displayTiers) (headerRow displayTiers) :=
  aligned_tableRow (by decide) (by decide) (by decide) (by decide) h rfl

end Report

namespace Worker

/-- Whether a worker can be shown in the columns of the table: its host name and its heartbeat are
short enough, it uses a part of its capacity, and no count is negative. -/
structure FitsTable (worker : Worker) : Prop where
  host_length : worker.host.length ≤ 16
  newline_not_mem_host : '\n' ∉ worker.host.toList
  heartbeat_length : (toString worker.heartbeat.toInt).length ≤ 16
  used_nonneg : 0 ≤ worker.used
  used_le : worker.used ≤ worker.capacity
  capacityTiers_nonneg : ∀ entry ∈ worker.capacityTiers.entries, 0 ≤ entry.2
  usedTiers_nonneg : ∀ entry ∈ worker.usedTiers.entries, 0 ≤ entry.2

variable {worker : Worker}

theorem length_format_tiers_le {tiers : TierMap} (h : ∀ entry ∈ tiers.entries, 0 ≤ entry.2)
    (displayTiers : List String) :
    ∀ text ∈ (displayTiers.map tiers.getD).map ByteSize.format, text.length ≤ 13 := by
  simp only [List.forall_mem_map]
  intro tier _
  have hnonneg : 0 ≤ tiers.getD tier := by
    rw [TierMap.getD]
    cases hcount : tiers.get? tier with
    | none => exact Int64.le_refl 0
    | some bytes => exact h (tier, bytes) (TierMap.mem_entries_iff.mpr hcount)
  exact (ByteSize.length_format_le hnonneg).trans (by decide)

/-- The size of what is used and its percentage fill the column of the total at most. -/
theorem FitsTable.length_usedCell_le (h : worker.FitsTable) (displayTiers : List String) :
    (ByteSize.format worker.used ++ (worker.row displayTiers).usedLabel).length ≤ 16 := by
  have hsize := ByteSize.length_format_le h.used_nonneg
  have hlabel : (worker.row displayTiers).usedLabel.length ≤ 7 :=
    Row.length_usedLabel_le fun percentage hpercentage =>
      Percentage.used_bounds h.used_nonneg h.used_le hpercentage
  rw [String.length_append]
  omega

theorem FitsTable.aligned_capacityRow (h : worker.FitsTable) (displayTiers : List String) :
    Report.Aligned displayTiers.length (Report.capacityCells (worker.row displayTiers))
      (Report.capacityRow (worker.row displayTiers)) := by
  have hcapacity : 0 ≤ worker.capacity := Int64.le_trans h.used_nonneg h.used_le
  exact Report.aligned_tableRow h.host_length h.heartbeat_length (by decide)
    ((ByteSize.length_format_le hcapacity).trans (by decide))
    (length_format_tiers_le h.capacityTiers_nonneg displayTiers) (by simp [row])

theorem FitsTable.aligned_usedRow (h : worker.FitsTable) (displayTiers : List String) :
    Report.Aligned displayTiers.length (Report.usedCells (worker.row displayTiers))
      (Report.usedRow (worker.row displayTiers)) :=
  Report.aligned_tableRow (by decide) (by decide) (by decide) (h.length_usedCell_le displayTiers)
    (length_format_tiers_le h.usedTiers_nonneg displayTiers) (by simp [row])

end Worker

namespace Report

open Text

variable {displayTiers : List String} {range : Range} {workers : List Worker}

/-- Every row of a report is the row of a worker. -/
theorem exists_eq_row_of_mem {row : Row} (h : row ∈ (collect displayTiers range workers).rows) :
    ∃ worker ∈ workers, worker.row displayTiers = row := by
  obtain ⟨worker, hworker, hrow⟩ := List.mem_map.mp h
  exact ⟨worker, (ordered_perm workers).mem_iff.mp hworker, hrow⟩

/-- The lines of the table of a report. -/
def tableLines (report : Report) : List String :=
  headerRow report.displayTiers :: report.rows.flatMap (fun row => [capacityRow row, usedRow row])

theorem text_eq_tableLines {report : Report} (h : report.rows ≠ []) :
    report.text = summaryText report.range report.totals ++ "\n"
      ++ joinLines report.tableLines ++ "\n" := by
  have htable : tableList report.displayTiers report.rows = "" :: report.tableLines :=
    if_neg (by simpa using h)
  rw [text, tableText_eq_joinLines, htable, joinLines_cons, String.empty_append]
  simp only [String.append_assoc]

theorem forall₂_aligned_tableLines (htiers : ∀ tier ∈ displayTiers, tier.length ≤ 13)
    (hworkers : ∀ worker ∈ workers, worker.FitsTable) :
    List.Forall₂ (Aligned displayTiers.length) (collect displayTiers range workers).tableCells
      (collect displayTiers range workers).tableLines := by
  refine .cons (aligned_headerRow htiers) ?_
  refine List.rel_flatMap
    (R := fun row other => row = other ∧ row ∈ (collect displayTiers range workers).rows) ?_ ?_
  · exact List.forall₂_same.mpr fun row hrow => ⟨rfl, hrow⟩
  · rintro row _ ⟨rfl, hrow⟩
    obtain ⟨worker, hworker, rfl⟩ := exists_eq_row_of_mem hrow
    have hfits := hworkers worker hworker
    exact .cons (hfits.aligned_capacityRow displayTiers)
      (.cons (hfits.aligned_usedRow displayTiers) .nil)

theorem newline_not_mem_tableLines (htiers : ∀ tier ∈ displayTiers, '\n' ∉ tier.toList)
    (hworkers : ∀ worker ∈ workers, '\n' ∉ worker.host.toList) :
    ∀ line ∈ (collect displayTiers range workers).tableLines, '\n' ∉ line.toList := by
  refine List.forall_mem_cons.mpr ⟨newline_not_mem_headerRow htiers, ?_⟩
  simp only [List.forall_mem_flatMap, List.forall_mem_cons]
  intro row hrow
  obtain ⟨worker, hworker, rfl⟩ := exists_eq_row_of_mem hrow
  exact ⟨newline_not_mem_capacityRow (hworkers worker hworker), newline_not_mem_usedRow _,
    List.forall_mem_nil _⟩

/-- The worker table is aligned: after the summary and an empty line, every line of it shows its
cells in their columns, and none is broken.  The size and the percentage of what is used fit in the
column of the total. -/
theorem table_aligned (displayTiers : List String) (range : Range) {workers : List Worker}
    (hne : workers ≠ [])
    (htiers : ∀ tier ∈ displayTiers, tier.length ≤ 13 ∧ '\n' ∉ tier.toList)
    (hworkers : ∀ worker ∈ workers, worker.FitsTable) :
    let report := collect displayTiers range workers
    ∃ lines, report.text
        = summaryText report.range report.totals ++ "\n" ++ joinLines lines ++ "\n" ∧
      (∀ line ∈ lines, '\n' ∉ line.toList) ∧
      List.Forall₂ (Aligned displayTiers.length) report.tableCells lines ∧
      ∀ row ∈ report.rows, (ByteSize.format row.used ++ row.usedLabel).length ≤ 16 := by
  intro report
  have hrows : report.rows ≠ [] := by
    intro hempty
    have hperm := ordered_perm workers
    rw [List.map_eq_nil_iff.mp hempty] at hperm
    exact hne hperm.symm.eq_nil
  refine ⟨report.tableLines, text_eq_tableLines hrows, ?_, ?_, fun row hrow => ?_⟩
  · exact newline_not_mem_tableLines (fun tier htier => (htiers tier htier).2)
      fun worker hworker => (hworkers worker hworker).newline_not_mem_host
  · exact forall₂_aligned_tableLines (fun tier htier => (htiers tier htier).1) hworkers
  · obtain ⟨worker, hworker, rfl⟩ := exists_eq_row_of_mem hrow
    exact (hworkers worker hworker).length_usedCell_le displayTiers

/-- A worker whose cells fill their columns, and one with nothing in most of its own. -/
theorem table_aligned_full :
    let full : Worker := ⟨"rack-07-node-042", -999999999999999, 9223372036854775807,
      9223372036854775807, TierMap.ofList [("PERSISTENTMEM", 9223372036854775807)], ∅⟩
    let idle : Worker := ⟨"", 0, 0, 0, ∅, ∅⟩
    let report := collect ["PERSISTENTMEM", "é"] .all [full, idle]
    ByteSize.format 9223372036854775807 ++ (full.row []).usedLabel = "8192.00PB (100%)" ∧
      ∃ lines, report.text
          = summaryText report.range report.totals ++ "\n" ++ joinLines lines ++ "\n" ∧
        List.Forall₂ (Aligned 2) report.tableCells lines := by
  intro full idle report
  have hfull : full.FitsTable := ⟨by decide, by decide, by decide, by decide, by decide, by decide,
    by decide⟩
  have hidle : idle.FitsTable := ⟨by decide, by decide, by decide, by decide, by decide, by decide,
    by decide⟩
  have hfits : ∀ worker ∈ [full, idle], worker.FitsTable := by
    simp [hfull, hidle]
  obtain ⟨lines, htext, -, haligned, -⟩ := table_aligned ["PERSISTENTMEM", "é"] .all
    (by decide) (by decide) hfits
  exact ⟨by decide, lines, htext, haligned⟩

end Report

end ClusterCapacity
