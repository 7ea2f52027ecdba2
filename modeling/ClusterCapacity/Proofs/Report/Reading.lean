import ClusterCapacity.Proofs.Report.Lines

/-!
# What the text of a report shows

The text of a report loses nothing but the rounding of sizes (`text_eq_iff`): two reports have the
same text exactly if they look alike (`LooksLike`), as long as their names cannot be taken for the
layout.  The lines are read from above: the tiers of a total end where the indentation goes back,
the percentages are told from an empty line, and every worker takes two lines of the table.
-/

namespace ClusterCapacity

open Text

/-! ### Reports that look alike -/

/-- The tiers as they are shown: the names with the texts of their counts. -/
def TierMap.shown (tiers : TierMap) : List (String × String) :=
  tiers.entries.map (fun entry => (entry.1, ByteSize.format entry.2))

/-- Whether rows differ at most in sizes that have one text. -/
structure Row.LooksLike (row other : Row) : Prop where
  host : row.host = other.host
  heartbeat : row.heartbeat = other.heartbeat
  capacity : ByteSize.format row.capacity = ByteSize.format other.capacity
  used : ByteSize.format row.used = ByteSize.format other.used
  usedPercentage : row.usedPercentage = other.usedPercentage
  capacityOnTiers :
    row.capacityOnTiers.map ByteSize.format = other.capacityOnTiers.map ByteSize.format
  usedOnTiers : row.usedOnTiers.map ByteSize.format = other.usedOnTiers.map ByteSize.format

/-- Whether reports differ at most in sizes that have one text, and in tier columns without
rows. -/
structure Report.LooksLike (report other : Report) : Prop where
  range : report.range = other.range
  capacity : ByteSize.format report.totals.capacity = ByteSize.format other.totals.capacity
  capacityTiers : report.totals.capacityTiers.shown = other.totals.capacityTiers.shown
  used : ByteSize.format report.totals.used = ByteSize.format other.totals.used
  usedTiers : report.totals.usedTiers.shown = other.totals.usedTiers.shown
  usedPercentage : report.totals.usedPercentage = other.totals.usedPercentage
  freePercentage : report.totals.freePercentage = other.totals.freePercentage
  rows : List.Forall₂ Row.LooksLike report.rows other.rows
  displayTiers : report.rows ≠ [] → report.displayTiers = other.displayTiers

namespace Report

/-! ### Lines of the summary -/

theorem headingLine_injective : Function.Injective headingLine := by
  intro range other h
  unfold headingLine at h
  rw [String.append_left_inj, String.append_right_inj] at h
  cases range <;> cases other <;> first
    | rfl
    | exact absurd h (by simp [Range.name])

theorem sizeLine_inj {title : String} {bytes other : Int64}
    (h : sizeLine title bytes = sizeLine title other) :
    ByteSize.format bytes = ByteSize.format other := by
  rwa [sizeLine, sizeLine, String.append_right_inj, String.append_right_inj] at h

theorem percentageLine_inj {title : String} {percentage other : Int64}
    (h : percentageLine title percentage = percentageLine title other) : percentage = other := by
  rw [percentageLine, percentageLine, String.append_right_inj, String.append_left_inj,
    String.append_right_inj] at h
  exact toString_int64_injective h

/-- The size of a tier starts after the last space, so the name may be any text. -/
theorem tierLine_inj {entry other : String × Int64} (h : tierLine entry = tierLine other) :
    (entry.1, ByteSize.format entry.2) = (other.1, ByteSize.format other.2) := by
  have hlabel : "  Size: " = "  Size:" ++ " " := by decide
  have hline (entry : String × Int64) : tierLine entry = spaces (2 * indentSize)
      ++ (("Tier: " ++ entry.1 ++ "  Size:") ++ (" " ++ ByteSize.format entry.2)) := by
    unfold tierLine
    rw [hlabel]
    simp only [String.append_assoc]
  rw [hline, hline, String.append_right_inj] at h
  obtain ⟨hname, hsize⟩ := append_inj_of_not_mem_right (c := ' ') rfl
    (ByteSize.not_mem_format rfl _) (ByteSize.not_mem_format rfl _) h
  rw [String.append_left_inj, String.append_right_inj] at hname
  rw [hname, hsize]

/-! ### Tiers of a total -/

/-- Whether a line is indented like those of tiers. -/
def IsDeep (line : String) : Prop := line.toList[4]? = some ' '

theorem isDeep_tierLine (entry : String × Int64) : IsDeep (tierLine entry) := by
  rw [IsDeep, tierLine, String.toList_append, toList_spaces]
  rfl

theorem isDeep_spaces_append_iff {text : String} :
    IsDeep (spaces (1 * indentSize) ++ text) ↔ text.toList.head? = some ' ' := by
  rw [IsDeep, String.toList_append, toList_spaces, List.head?_eq_getElem?]
  rfl

theorem not_isDeep_sizeLine (bytes : Int64) : ¬ IsDeep (sizeLine "Used Capacity" bytes) := by
  rw [sizeLine, isDeep_spaces_append_iff]
  simp [String.toList_append]

theorem not_isDeep_percentageLine (percentage : Int64) :
    ¬ IsDeep (percentageLine "Used Percentage: " percentage) := by
  rw [percentageLine, isDeep_spaces_append_iff]
  simp [String.toList_append]

theorem not_isDeep_empty : ¬ IsDeep "" := by
  simp [IsDeep]

theorem shown_eq_of_map_tierLine {entries others : List (String × Int64)}
    (h : entries.map tierLine = others.map tierLine) :
    entries.map (fun entry => (entry.1, ByteSize.format entry.2))
      = others.map (fun entry => (entry.1, ByteSize.format entry.2)) := by
  induction entries generalizing others with
  | nil =>
    rw [List.map_nil, eq_comm, List.map_eq_nil_iff] at h
    rw [h]
  | cons entry rest ih =>
    cases others with
    | nil => exact absurd h (by simp)
    | cons other others =>
      obtain ⟨hentry, hrest⟩ := List.cons.inj h
      rw [List.map_cons, List.map_cons, ih hrest, tierLine_inj hentry]

/-- The tiers of a total end before the first line that is less deep. -/
theorem tierLines_append_inj {tiers others : TierMap} {line line' : String}
    {rest rest' : List String} (hline : ¬ IsDeep line) (hline' : ¬ IsDeep line')
    (h : tiers.entries.map tierLine ++ line :: rest =
      others.entries.map tierLine ++ line' :: rest') :
    tiers.shown = others.shown ∧ line = line' ∧ rest = rest' := by
  have hdeep (tiers : TierMap) : ∀ line ∈ tiers.entries.map tierLine, IsDeep line := by
    rw [List.forall_mem_map]
    exact fun entry _ => isDeep_tierLine entry
  obtain ⟨htiers, hlines⟩ := append_cons_inj (hdeep tiers) (hdeep others) hline hline' h
  exact ⟨shown_eq_of_map_tierLine htiers, hlines⟩

/-! ### After the tiers -/

theorem exists_tableList_append (displayTiers : List String) (rows : List Row) :
    ∃ rest, tableList displayTiers rows ++ [""] = "" :: rest := by
  rw [tableList]
  split
  · exact ⟨[], rfl⟩
  · exact ⟨_, rfl⟩

/-- What follows the tiers begins less deep. -/
theorem exists_percentageList_append (totals : Totals) (displayTiers : List String)
    (rows : List Row) : ∃ line rest, ¬ IsDeep line ∧
      percentageList totals ++ (tableList displayTiers rows ++ [""]) = line :: rest := by
  rw [percentageList]
  cases totals.usedPercentage with
  | none =>
    obtain ⟨rest, hrest⟩ := exists_tableList_append displayTiers rows
    exact ⟨"", rest, not_isDeep_empty, hrest⟩
  | some used => exact ⟨_, _, not_isDeep_percentageLine used, rfl⟩

theorem percentageLine_ne_empty (title : String) (percentage : Int64) :
    percentageLine title percentage ≠ "" := by
  intro h
  have hlist := congrArg String.toList h
  rw [percentageLine, String.toList_append, toList_spaces] at hlist
  simp [indentSize] at hlist

/-- The percentages are there unless an empty line is in their place. -/
theorem percentageList_append_inj {totals others : Totals}
    {displayTiers displayTiers' : List String} {rows rows' : List Row}
    (h : percentageList totals ++ (tableList displayTiers rows ++ [""])
      = percentageList others ++ (tableList displayTiers' rows' ++ [""])) :
    totals.usedPercentage = others.usedPercentage ∧
      tableList displayTiers rows = tableList displayTiers' rows' := by
  obtain ⟨rest, hrest⟩ := exists_tableList_append displayTiers rows
  obtain ⟨rest', hrest'⟩ := exists_tableList_append displayTiers' rows'
  unfold percentageList at h
  cases hused : totals.usedPercentage with
  | none =>
    cases hother : others.usedPercentage with
    | none =>
      rw [hused, hother] at h
      exact ⟨rfl, List.append_cancel_right h⟩
    | some other =>
      rw [hused, hother, hrest] at h
      exact absurd (List.cons.inj h).1.symm (percentageLine_ne_empty _ _)
  | some used =>
    cases hother : others.usedPercentage with
    | none =>
      rw [hused, hother, hrest'] at h
      exact absurd (List.cons.inj h).1 (percentageLine_ne_empty _ _)
    | some other =>
      rw [hused, hother] at h
      obtain ⟨hline, hlines⟩ := List.cons.inj h
      rw [percentageLine_inj hline]
      exact ⟨rfl, List.append_cancel_right (List.cons.inj hlines).2⟩

/-! ### Lines of the table -/

/-- The cells of a line are told apart if none of them has a space. -/
theorem tableRow_inj {name name' heartbeat heartbeat' storage total total' : String}
    {tiers tiers' : List String} (hname : ' ' ∉ name.toList) (hname' : ' ' ∉ name'.toList)
    (hheartbeat : ' ' ∉ heartbeat.toList) (hheartbeat' : ' ' ∉ heartbeat'.toList)
    (htotal : ' ' ∉ total.toList) (htotal' : ' ' ∉ total'.toList)
    (htiers : ∀ tier ∈ tiers, ' ' ∉ tier.toList) (htiers' : ∀ tier ∈ tiers', ' ' ∉ tier.toList)
    (h : tableRow name heartbeat storage total tiers
      = tableRow name' heartbeat' storage total' tiers') :
    name = name' ∧ heartbeat = heartbeat' ∧ total = total' ∧ tiers = tiers' := by
  -- a space after the line ends its last cell
  obtain ⟨rest, hrest⟩ := exists_cells_append tierWidth tiers
  obtain ⟨rest', hrest'⟩ := exists_cells_append tierWidth tiers'
  replace h := congrArg (fun line => line ++ " ") h
  simp only [tableRow, String.append_assoc, hrest, hrest'] at h
  obtain ⟨rfl, hafterName⟩ := padRight_append_inj hname hname' h
  obtain ⟨rfl, hafterHeartbeat⟩ := padRight_append_inj hheartbeat hheartbeat' hafterName
  rw [String.append_right_inj, String.append_right_inj] at hafterHeartbeat
  obtain ⟨rfl, rfl⟩ := padRight_append_inj htotal htotal' hafterHeartbeat
  have hcells : cells tierWidth tiers = cells tierWidth tiers' :=
    (String.append_left_inj " ").mp (hrest.trans hrest'.symm)
  exact ⟨rfl, rfl, rfl, cells_injective htiers htiers' hcells⟩

theorem headerRow_inj {displayTiers displayTiers' : List String}
    (hspaces : ∀ tier ∈ displayTiers, ' ' ∉ tier.toList)
    (hspaces' : ∀ tier ∈ displayTiers', ' ' ∉ tier.toList)
    (h : headerRow displayTiers = headerRow displayTiers') : displayTiers = displayTiers' := by
  unfold headerRow tableRow at h
  exact cells_injective hspaces hspaces' ((String.append_right_inj _).mp h)

theorem capacityRow_inj {row other : Row} (hhost : ' ' ∉ row.host.toList)
    (hhost' : ' ' ∉ other.host.toList) (h : capacityRow row = capacityRow other) :
    row.host = other.host ∧ row.heartbeat = other.heartbeat ∧
      ByteSize.format row.capacity = ByteSize.format other.capacity ∧
      row.capacityOnTiers.map ByteSize.format = other.capacityOnTiers.map ByteSize.format := by
  obtain ⟨hname, hheartbeat, hsizes⟩ := tableRow_inj hhost hhost' (not_mem_toString rfl _)
    (not_mem_toString rfl _) (ByteSize.not_mem_format rfl _) (ByteSize.not_mem_format rfl _)
    (not_mem_formats rfl _) (not_mem_formats rfl _) h
  exact ⟨hname, toString_int64_injective hheartbeat, hsizes⟩

/-- What can follow the size of the used bytes and a space in their line: a percentage in brackets,
or padding and sizes, in which there is no bracket. -/
def FollowsUsed (percentage : Option Int64) (rest : String) : Prop :=
  match percentage with
  | none => '(' ∉ rest.toList
  | some percentage => ∃ more, rest = "(" ++ (toString percentage.toInt ++ ("%" ++ more))

/-- A percentage is told from a size by its bracket, and ends at its sign. -/
theorem FollowsUsed.unique {percentage other : Option Int64} {rest : String}
    (h : FollowsUsed percentage rest) (hother : FollowsUsed other rest) : percentage = other := by
  cases percentage with
  | none =>
    cases other with
    | none => rfl
    | some other =>
      obtain ⟨more, rfl⟩ := hother
      exact absurd h (by simp [FollowsUsed])
  | some percentage =>
    obtain ⟨more, rfl⟩ := h
    cases other with
    | none => exact absurd hother (by simp [FollowsUsed])
    | some other =>
      obtain ⟨more', hsame⟩ := hother
      rw [String.append_right_inj] at hsame
      have hnumber := (append_inj_of_not_mem (c := '%') rfl (not_mem_toString rfl _)
        (not_mem_toString rfl _) hsame).1
      rw [toString_int64_injective hnumber]

/-- The size of the used bytes ends at the first space of its cell. -/
theorem exists_followsUsed (row : Row) : ∃ rest, FollowsUsed row.usedPercentage rest ∧
    padRight totalWidth (ByteSize.format row.used ++ row.usedLabel)
        ++ (cells tierWidth (row.usedOnTiers.map ByteSize.format) ++ " ")
      = ByteSize.format row.used ++ (" " ++ rest) := by
  cases hused : row.usedPercentage with
  | none =>
    have hlabel : row.usedLabel = "" := by
      rw [Row.usedLabel, hused]
    obtain ⟨rest, hrest⟩ := exists_cells_append tierWidth (row.usedOnTiers.map ByteSize.format)
    have hcells : '(' ∉ (cells tierWidth (row.usedOnTiers.map ByteSize.format) ++ " ").toList :=
      not_mem_append.mpr ⟨not_mem_cells (by decide) _ (not_mem_formats rfl _), by decide⟩
    rw [hrest, not_mem_append] at hcells
    rw [hlabel, String.append_empty, hrest, padRight_append_space]
    exact ⟨_, not_mem_append.mpr ⟨not_mem_spaces (by decide) _, hcells.2⟩, rfl⟩
  | some percentage =>
    have hlabel : row.usedLabel
        = " " ++ ("(" ++ (toString percentage.toInt ++ ("%" ++ ")"))) := by
      have hopen : " (" = " " ++ "(" := by decide
      have hclose : "%)" = "%" ++ ")" := by decide
      rw [Row.usedLabel, hused, hopen, hclose]
      simp only [String.append_assoc]
    rw [hlabel, padRight]
    simp only [String.append_assoc]
    exact ⟨_, ⟨_, rfl⟩, rfl⟩

theorem usedRow_inj {row other : Row} (h : usedRow row = usedRow other) :
    ByteSize.format row.used = ByteSize.format other.used ∧
      row.usedPercentage = other.usedPercentage ∧
      row.usedOnTiers.map ByteSize.format = other.usedOnTiers.map ByteSize.format := by
  have hcells : padRight totalWidth (ByteSize.format row.used ++ row.usedLabel)
        ++ cells tierWidth (row.usedOnTiers.map ByteSize.format)
      = padRight totalWidth (ByteSize.format other.used ++ other.usedLabel)
        ++ cells tierWidth (other.usedOnTiers.map ByteSize.format) := by
    unfold usedRow tableRow at h
    simpa only [String.append_assoc, String.append_right_inj] using h
  obtain ⟨rest, hfollows, hrest⟩ := exists_followsUsed row
  obtain ⟨rest', hfollows', hrest'⟩ := exists_followsUsed other
  have hline := congrArg (fun line => line ++ " ") hcells
  rw [String.append_assoc, String.append_assoc, hrest, hrest'] at hline
  obtain ⟨hsize, rfl⟩ := append_inj_of_not_mem (c := ' ') rfl (ByteSize.not_mem_format rfl _)
    (ByteSize.not_mem_format rfl _) hline
  have hpercentage := hfollows.unique hfollows'
  -- with the same cell in front, the tiers are what is left
  have hlabel : row.usedLabel = other.usedLabel := by
    rw [Row.usedLabel, Row.usedLabel, hpercentage]
  rw [hsize, hlabel, String.append_right_inj] at hcells
  exact ⟨hsize, hpercentage, cells_injective (not_mem_formats rfl _) (not_mem_formats rfl _) hcells⟩

/-! ### The table -/

theorem looksLike_of_rows_eq {row other : Row} (hhost : ' ' ∉ row.host.toList)
    (hhost' : ' ' ∉ other.host.toList) (hcapacity : capacityRow row = capacityRow other)
    (hused : usedRow row = usedRow other) : row.LooksLike other := by
  obtain ⟨hname, hheartbeat, hsize, htiers⟩ := capacityRow_inj hhost hhost' hcapacity
  obtain ⟨hsize', hpercentage, htiers'⟩ := usedRow_inj hused
  exact ⟨hname, hheartbeat, hsize, hsize', hpercentage, htiers, htiers'⟩

/-- Every worker has two lines, so the rows are read from the table one after the other. -/
theorem forall₂_looksLike_of_flatMap_eq {rows others : List Row}
    (hhosts : ∀ row ∈ rows, ' ' ∉ row.host.toList) (hhosts' : ∀ row ∈ others, ' ' ∉ row.host.toList)
    (h : rows.flatMap (fun row => [capacityRow row, usedRow row])
      = others.flatMap (fun row => [capacityRow row, usedRow row])) :
    List.Forall₂ Row.LooksLike rows others := by
  induction rows generalizing others with
  | nil =>
    cases others with
    | nil => exact .nil
    | cons other others => exact absurd h (by simp)
  | cons row rows ih =>
    cases others with
    | nil => exact absurd h (by simp)
    | cons other others =>
      obtain ⟨hhost, hrest⟩ := List.forall_mem_cons.mp hhosts
      obtain ⟨hhost', hrest'⟩ := List.forall_mem_cons.mp hhosts'
      simp only [List.flatMap_cons, List.cons_append, List.nil_append, List.cons.injEq] at h
      obtain ⟨hcapacity, hused, hrows⟩ := h
      exact .cons (looksLike_of_rows_eq hhost hhost' hcapacity hused) (ih hrest hrest' hrows)

theorem tableList_inj {report other : Report} (h : report.Readable) (hother : other.Readable)
    (htable : tableList report.displayTiers report.rows
      = tableList other.displayTiers other.rows) :
    List.Forall₂ Row.LooksLike report.rows other.rows ∧
      (report.rows ≠ [] → report.displayTiers = other.displayTiers) := by
  unfold tableList at htable
  cases hrows : report.rows with
  | nil =>
    cases hrows' : other.rows with
    | nil => exact ⟨.nil, fun hne => absurd rfl hne⟩
    | cons row rows =>
      rw [hrows, hrows'] at htable
      exact absurd htable (by simp)
  | cons row rows =>
    cases hrows' : other.rows with
    | nil =>
      rw [hrows, hrows'] at htable
      exact absurd htable (by simp)
    | cons row' rows' =>
      rw [← hrows, ← hrows']
      simp only [hrows, hrows', List.isEmpty_cons, Bool.false_eq_true, ↓reduceIte, List.cons.injEq,
        true_and] at htable
      obtain ⟨hheader, hlines⟩ := htable
      rw [← hrows, ← hrows'] at hlines
      exact ⟨forall₂_looksLike_of_flatMap_eq (fun row hrow => (h.hosts row hrow).1)
          (fun row hrow => (hother.hosts row hrow).1) hlines,
        fun _ => headerRow_inj (fun tier htier => (h.displayTiers tier htier).1)
          (fun tier htier => (hother.displayTiers tier htier).1) hheader⟩

/-! ### The whole text -/

theorem looksLike_of_text_eq {report other : Report} (h : report.Readable) (hother : other.Readable)
    (htext : report.text = other.text) : report.LooksLike other := by
  rw [text_eq_joinLines, text_eq_joinLines] at htext
  have hlines := joinLines_injective (newline_not_mem_lines h) (newline_not_mem_lines hother) htext
  unfold lines at hlines
  obtain ⟨hheading, hlines⟩ := List.cons.inj hlines
  obtain ⟨hcapacity, hlines⟩ := List.cons.inj hlines
  obtain ⟨hcapacityTiers, hused, hlines⟩ :=
    tierLines_append_inj (not_isDeep_sizeLine _) (not_isDeep_sizeLine _) hlines
  obtain ⟨line, rest, hline, hrest⟩ :=
    exists_percentageList_append report.totals report.displayTiers report.rows
  obtain ⟨line', rest', hline', hrest'⟩ :=
    exists_percentageList_append other.totals other.displayTiers other.rows
  rw [hrest, hrest'] at hlines
  obtain ⟨husedTiers, rfl, rfl⟩ := tierLines_append_inj hline hline' hlines
  obtain ⟨hpercentage, htable⟩ := percentageList_append_inj (hrest.trans hrest'.symm)
  obtain ⟨hrows, hdisplayTiers⟩ := tableList_inj h hother htable
  exact {
    range := headingLine_injective hheading
    capacity := sizeLine_inj hcapacity
    capacityTiers := hcapacityTiers
    used := sizeLine_inj hused
    usedTiers := husedTiers
    usedPercentage := hpercentage
    freePercentage := congrArg (Option.map Percentage.free) hpercentage
    rows := hrows
    displayTiers := hdisplayTiers }

/-! ### The text of what looks alike -/

theorem map_tierLine_of_shown_eq {tiers others : TierMap} (h : tiers.shown = others.shown) :
    tiers.entries.map tierLine = others.entries.map tierLine := by
  have hlines (tiers : TierMap) : tiers.entries.map tierLine = tiers.shown.map (fun entry =>
      spaces (2 * indentSize) ++ ("Tier: " ++ entry.1 ++ "  Size: " ++ entry.2)) := by
    rw [TierMap.shown, List.map_map]
    rfl
  rw [hlines, hlines, h]

theorem flatMap_rows_eq {rows others : List Row} (h : List.Forall₂ Row.LooksLike rows others) :
    rows.flatMap (fun row => [capacityRow row, usedRow row])
      = others.flatMap (fun row => [capacityRow row, usedRow row]) := by
  induction h with
  | nil => rfl
  | @cons row other rows others hrow _ ih =>
    have hlabel : row.usedLabel = other.usedLabel := by
      rw [Row.usedLabel, Row.usedLabel, hrow.usedPercentage]
    have hcapacity : capacityRow row = capacityRow other := by
      simp only [capacityRow, hrow.host, hrow.heartbeat, hrow.capacity, hrow.capacityOnTiers]
    have hused : usedRow row = usedRow other := by
      simp only [usedRow, hrow.used, hlabel, hrow.usedOnTiers]
    rw [List.flatMap_cons, List.flatMap_cons, hcapacity, hused, ih]

theorem LooksLike.lines_eq {report other : Report} (h : report.LooksLike other) :
    report.lines = other.lines := by
  have hpercentages : percentageList report.totals = percentageList other.totals := by
    unfold percentageList
    rw [h.usedPercentage]
  have htable : tableList report.displayTiers report.rows
      = tableList other.displayTiers other.rows := by
    have hempty : other.rows.isEmpty = report.rows.isEmpty := by
      rw [Bool.eq_iff_iff, List.isEmpty_iff_length_eq_zero, List.isEmpty_iff_length_eq_zero,
        h.rows.length_eq]
    unfold tableList
    rw [hempty, flatMap_rows_eq h.rows]
    split
    · rfl
    · rename_i hne
      rw [h.displayTiers (fun hnil => hne (List.isEmpty_iff.mpr hnil))]
  unfold lines sizeLine
  rw [h.range, h.capacity, h.used, map_tierLine_of_shown_eq h.capacityTiers,
    map_tierLine_of_shown_eq h.usedTiers, hpercentages, htable]

/-- The text of a report tells everything but what rounding takes from its sizes. -/
theorem text_eq_iff {report other : Report} (h : report.Readable) (hother : other.Readable) :
    report.text = other.text ↔ report.LooksLike other := by
  constructor
  · exact looksLike_of_text_eq h hother
  · intro halike
    rw [text_eq_joinLines, text_eq_joinLines, halike.lines_eq]

/-- Two reports that differ by a byte that rounding takes, with a tier named like a line. -/
theorem text_eq_iff_rounded :
    let tiers (bytes : Int64) : TierMap := TierMap.ofList [("MEM  Size: 1B", bytes)]
    let row (bytes : Int64) : Row := ⟨"a", 5, bytes, 10, [bytes], [10], some 0⟩
    let report (bytes : Int64) : Report :=
      ⟨.live, ["MEM"], [row bytes], ⟨bytes, 10, tiers bytes, ∅⟩⟩
    (report 5121).Readable ∧ (report 5122).Readable ∧ report 5121 ≠ report 5122 ∧
      (report 5121).text = (report 5122).text ∧ (report 5121).LooksLike (report 5122) := by
  intro tiers row report
  have hreadable (bytes : Int64) : (report bytes).Readable := by
    have hnames : (report bytes).totals.capacityTiers.tiers = ["MEM  Size: 1B"] := rfl
    have hhost : ' ' ∉ "a".toList ∧ '\n' ∉ "a".toList := by decide
    refine ⟨?_, List.forall_mem_nil _, List.forall_mem_singleton.mpr hhost, ?_⟩
    · rw [hnames]
      decide
    · exact List.forall_mem_singleton.mpr (by decide)
  have hformat : ByteSize.format 5121 = ByteSize.format 5122 := by decide
  have htiers : (tiers 5121).shown = (tiers 5122).shown :=
    congrArg (fun size => [("MEM  Size: 1B", size)]) hformat
  have hrow : (row 5121).LooksLike (row 5122) :=
    ⟨rfl, rfl, hformat, rfl, rfl, congrArg (fun size => [size]) hformat, rfl⟩
  have hlooks : (report 5121).LooksLike (report 5122) :=
    ⟨rfl, hformat, htiers, rfl, rfl, by decide, by decide, .cons hrow .nil, fun _ => rfl⟩
  exact ⟨hreadable _, hreadable _, by decide, (text_eq_iff (hreadable _) (hreadable _)).mpr hlooks,
    hlooks⟩

end Report

end ClusterCapacity
