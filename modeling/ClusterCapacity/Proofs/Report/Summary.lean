import ClusterCapacity.Proofs.Json.Value
import ClusterCapacity.Proofs.Report.Permutation
import ClusterCapacity.Proofs.Run.Effects
import ClusterCapacity.Proofs.Wire.RoundTrip

/-!
# The summary of a report

The exported summary is a canonical form of a report (`summary_canonical`): its names ascend, it
says everything that the report holds except the order of the tiers in the totals, and so the
texts of two summaries are equal just when the reports differ in this order only.  Equal summaries
are told apart from others by what their members are read as (`Report.summarizes_summary`).
-/

namespace ClusterCapacity

open Json
open Wire (Fills)

/-! ### Members of a summary -/

/-- Whether the member of an object decodes to a value. -/
def Json.Holds {α : Type} (object : Json) (name : String) (read : Reader α) (value : α) : Prop :=
  ∃ member, object.member? name = some member ∧ decode read member.compact = .ok value

/-- Whether the member of an object holds the counts of some tiers, in any order. -/
def Json.HoldsTiers (object : Json) (name : String) (tiers : TierMap) : Prop :=
  ∃ members, object.member? name = some (.obj members) ∧
    members.Perm (tiers.entries.map (fun entry => (entry.1, .int64 entry.2)))

theorem Json.Holds.unique {α : Type} {object : Json} {name : String} {read : Reader α}
    {value other : α} (h : object.Holds name read value) (hother : object.Holds name read other) :
    value = other := by
  obtain ⟨member, hmember, hvalue⟩ := h
  obtain ⟨member', hmember', hother⟩ := hother
  obtain rfl : member = member' := Option.some.inj (hmember.symm.trans hmember')
  exact Except.ok.inj (hvalue.symm.trans hother)

theorem Json.HoldsTiers.get?_eq {object : Json} {name : String} {tiers others : TierMap}
    (h : object.HoldsTiers name tiers) (hothers : object.HoldsTiers name others) (tier : String) :
    tiers.get? tier = others.get? tier := by
  obtain ⟨members, hmembers, hperm⟩ := h
  obtain ⟨members', hmembers', hperm'⟩ := hothers
  obtain rfl : members = members' :=
    Json.obj.inj (Option.some.inj (hmembers.symm.trans hmembers'))
  have hinjective : Function.Injective
      (fun entry : String × Int64 => (entry.1, Json.int64 entry.2)) := by
    intro entry other heq
    have hcount : entry.2.toInt = other.2.toInt := Json.int.inj (Prod.mk.inj heq).2
    exact Prod.ext (Prod.mk.inj heq).1 (Int64.toInt_inj.mp hcount)
  have hentries : tiers.entries.Perm others.entries :=
    (List.map_perm_map_iff hinjective).mp (hperm.symm.trans hperm')
  apply Option.ext
  intro bytes
  rw [← TierMap.mem_entries_iff, ← TierMap.mem_entries_iff, hentries.mem_iff]

/-! ### Rows in canonical order -/

theorem Row.sorted_toJson (row : Row) : row.toJson.sorted = .obj [
    ("capacityBytes", .int64 row.capacity),
    ("capacityOnDisplayTiers", .arr (row.capacityOnTiers.map .int64)),
    ("hostName", .str row.host),
    ("lastHeartbeatSecs", .int64 row.heartbeat),
    ("usedBytes", .int64 row.used),
    ("usedOnDisplayTiers", .arr (row.usedOnTiers.map .int64)),
    ("usedPercentage", .optional row.usedPercentage)] := by
  have hnumbers (values : List Int64) :
      (arr (values.map Json.int64)).sorted = arr (values.map Json.int64) :=
    Json.sorted_arr_map Json.int64 values
  have hpercentage : (Json.optional row.usedPercentage).sorted = .optional row.usedPercentage := by
    cases row.usedPercentage <;> rfl
  rw [Row.toJson, Json.sorted]
  simp only [sortedMembers, hnumbers, hpercentage]
  rfl

/-- A row is read from its sorted members too, because a draft is filled in any order. -/
theorem Row.inverts_shape_sorted : Inverts Row.shape (fun row => row.toJson.sorted) := by
  intro row
  show Reads Row.shape row row.toJson.sorted.tokens
  rw [Row.sorted_toJson]
  apply Reader.reads_record
  · apply Fills.member rfl rfl ((Reader.reads_int64 row.capacity).map _)
    apply Fills.member rfl rfl ((Reader.inverts_list Reader.reads_int64 row.capacityOnTiers).map _)
    apply Fills.member rfl rfl ((Reader.inverts_text row.host).map _)
    apply Fills.member rfl rfl ((Reader.reads_int64 row.heartbeat).map _)
    apply Fills.member rfl rfl ((Reader.reads_int64 row.used).map _)
    apply Fills.member rfl rfl ((Reader.inverts_list Reader.reads_int64 row.usedOnTiers).map _)
    apply Fills.member rfl rfl ((inverts_optional row.usedPercentage).map _)
    exact Fills.done _
  · rfl

/-! ### What a summary says -/

/-- Whether a value in canonical order says what a report holds, except the order of the tiers. -/
structure Report.Summarizes (report : Report) (summary : Json) : Prop where
  ascending : summary.Ascending
  range : summary.Holds "range" Range.shape report.range
  displayTiers : summary.Holds "displayTiers" (Reader.list Reader.text) report.displayTiers
  rows : summary.Holds "workers" (Reader.list Row.shape) report.rows
  totals : ∃ totals, summary.member? "totals" = some totals ∧
    totals.Holds "capacityBytes" Reader.int64 report.totals.capacity ∧
    totals.Holds "usedBytes" Reader.int64 report.totals.used ∧
    totals.HoldsTiers "capacityBytesOnTiers" report.totals.capacityTiers ∧
    totals.HoldsTiers "usedBytesOnTiers" report.totals.usedTiers

/-- Whether reports differ in the order of the tiers of their totals at most. -/
structure Report.Alike (report other : Report) : Prop where
  range : report.range = other.range
  displayTiers : report.displayTiers = other.displayTiers
  rows : report.rows = other.rows
  capacity : report.totals.capacity = other.totals.capacity
  used : report.totals.used = other.totals.used
  capacityTiers (tier : String) :
    report.totals.capacityTiers.get? tier = other.totals.capacityTiers.get? tier
  usedTiers (tier : String) :
    report.totals.usedTiers.get? tier = other.totals.usedTiers.get? tier

/-- A value summarizes reports only that are alike. -/
theorem Report.Summarizes.alike {report other : Report} {summary : Json}
    (h : report.Summarizes summary) (hother : other.Summarizes summary) : report.Alike other := by
  obtain ⟨totals, htotals, hcapacity, hused, hcapacityTiers, husedTiers⟩ := h.totals
  obtain ⟨totals', htotals', hcapacity', hused', hcapacityTiers', husedTiers'⟩ := hother.totals
  obtain rfl : totals = totals' := Option.some.inj (htotals.symm.trans htotals')
  exact {
    range := h.range.unique hother.range
    displayTiers := h.displayTiers.unique hother.displayTiers
    rows := h.rows.unique hother.rows
    capacity := hcapacity.unique hcapacity'
    used := hused.unique hused'
    capacityTiers := hcapacityTiers.get?_eq hcapacityTiers'
    usedTiers := husedTiers.get?_eq husedTiers' }

theorem TierMap.sorted_toJson_members (tiers : TierMap) : ∃ members,
    tiers.toJson.sorted = .obj members ∧
      members.Perm (tiers.entries.map (fun entry => (entry.1, .int64 entry.2))) := by
  have hnodup : ((tiers.entries.map
      (fun entry => (entry.1, Json.int64 entry.2))).map Prod.fst).Nodup := by
    rw [List.map_map]
    exact tiers.nodup
  obtain ⟨members, hsorted, hperm⟩ := Json.sorted_obj_members hnodup
  rw [List.map_map] at hperm
  exact ⟨members, hsorted, hperm⟩

theorem Totals.member?_summaryObject (totals : Totals) (name : String) :
    totals.summaryObject.sorted.member? name
      = (totals.summaryObject.member? name).map Json.sorted :=
  Json.member?_sorted_obj (by simp) name

/-- The exported summary of a report says what the report holds. -/
theorem Report.summarizes_summary (report : Report) : report.Summarizes report.summary where
  ascending := ascending_sorted _
  range := ⟨_, report.member?_summary "range", decode_compact (Range.inverts_shape report.range)⟩
  displayTiers := by
    refine ⟨_, report.member?_summary "displayTiers", ?_⟩
    rw [Json.sorted_arr_map]
    exact decode_compact (Reader.inverts_list Reader.inverts_text report.displayTiers)
  rows := by
    refine ⟨_, report.member?_summary "workers", ?_⟩
    rw [Json.sorted_arr_map]
    exact decode_compact (Reader.inverts_list Row.inverts_shape_sorted report.rows)
  totals := by
    have hmember := report.totals.member?_summaryObject
    obtain ⟨capacityTiers, hcapacity, hcapacityPerm⟩ :=
      report.totals.capacityTiers.sorted_toJson_members
    obtain ⟨usedTiers, hused, husedPerm⟩ := report.totals.usedTiers.sorted_toJson_members
    refine ⟨_, report.member?_summary_totals, ?_, ?_, ?_, ?_⟩
    · exact ⟨_, hmember "capacityBytes", decode_compact (Reader.reads_int64 _)⟩
    · exact ⟨_, hmember "usedBytes", decode_compact (Reader.reads_int64 _)⟩
    · exact ⟨capacityTiers, (hmember "capacityBytesOnTiers").trans (congrArg some hcapacity),
        hcapacityPerm⟩
    · exact ⟨usedTiers, (hmember "usedBytesOnTiers").trans (congrArg some hused), husedPerm⟩

/-- The sorted totals are the member that a summary is completed with. -/
theorem Report.summary_eq_insertMember (report : Report) :
    report.summary = .obj (insertMember "totals" report.totals.summaryObject.sorted
      (sortedMembers [("range", report.range.toJson),
        ("displayTiers", .arr (report.displayTiers.map .str)),
        ("workers", .arr (report.rows.map Row.toJson))] [])) := by
  rw [Report.summary, Json.sorted]
  rfl

/-- Reports that are alike have one summary. -/
theorem Report.Alike.summary_eq {report other : Report} (h : report.Alike other) :
    report.summary = other.summary := by
  have hsimilar : Totals.Similar report.totals other.totals :=
    ⟨h.capacity, h.used, TierMap.perm_entries h.capacityTiers, TierMap.perm_entries h.usedTiers⟩
  rw [Report.summary_eq_insertMember, Report.summary_eq_insertMember, h.range, h.displayTiers,
    h.rows, hsimilar.sorted_summaryObject]

/-! ### Numbers of a summary -/

theorem Json.fits64_int64 (value : Int64) : (Json.int64 value).Fits64 :=
  fits64_int_iff.mpr (Decimal.fitsInt64_toInt value)

theorem Json.fits64_optional (value : Option Int64) : (Json.optional value).Fits64 := by
  cases value with
  | none => exact fits64_null
  | some value => exact fits64_int64 value

theorem TierMap.fits64_toJson (tiers : TierMap) : tiers.toJson.Fits64 := by
  rw [TierMap.toJson, fits64_obj_iff, List.forall_mem_map]
  intro entry _
  exact fits64_int64 entry.2

theorem Row.fits64_toJson (row : Row) : row.toJson.Fits64 := by
  simp [Row.toJson, fits64_obj_iff, fits64_arr_iff, fits64_str, fits64_int64, fits64_optional]

theorem Report.fits64_summaryMembers (report : Report) :
    ∀ member ∈ report.summaryMembers, member.2.Fits64 := by
  simp [Report.summaryMembers, Range.toJson, fits64_obj_iff, fits64_arr_iff, fits64_str,
    fits64_int64, fits64_optional, TierMap.fits64_toJson, Row.fits64_toJson]

theorem Report.fits64_summary (report : Report) : report.summary.Fits64 :=
  (fits64_obj_iff.mpr report.fits64_summaryMembers).sorted

theorem Report.fits64_exported (report : Report) (time : String) :
    (report.exported time).Fits64 := by
  apply Json.Fits64.sorted
  rw [fits64_obj_iff, List.forall_mem_append, List.forall_mem_singleton]
  exact ⟨report.fits64_summaryMembers, fits64_str time⟩

/-! ### The canonical form -/

theorem Report.parse_summary (report : Report) :
    Json.parse report.summary.compact = .ok report.summary := by
  rw [parse_compact report.fits64_summary, Report.summary, sorted_sorted]

theorem Report.parse_exportText (report : Report) (time : String) :
    Json.parse (report.exportText time) = .ok (report.exported time) := by
  rw [Report.exportText, parse_pretty (report.fits64_exported time), Report.exported,
    sorted_sorted]

/-- The summary is a canonical form: it says in ascending order what a report holds, its text
tells reports apart that differ in more than the order of the tiers of their totals, and it is
what is read from the exported document except the time. -/
theorem summary_canonical :
    (∀ report : Report, report.Summarizes report.summary) ∧
    (∀ report other : Report,
      report.summary.compact = other.summary.compact ↔ report.Alike other) ∧
    (∀ (report : Report) (time : String), ∃ document,
      Json.parse (report.exportText time) = .ok document ∧
        Json.parse report.summary.compact = .ok (document.without "generatedAt")) := by
  refine ⟨Report.summarizes_summary, fun report other => ⟨fun htext => ?_, fun halike => ?_⟩,
    fun report time => ⟨report.exported time, report.parse_exportText time, ?_⟩⟩
  · -- texts that are equal are read as one summary
    have hread := report.parse_summary
    rw [htext, other.parse_summary] at hread
    have hsummary : other.summary = report.summary := Except.ok.inj hread
    have hother := other.summarizes_summary
    rw [hsummary] at hother
    exact report.summarizes_summary.alike hother
  · rw [halike.summary_eq]
  · rw [report.without_exported, report.parse_summary]

end ClusterCapacity
