import ClusterCapacity.Proofs.Json.Exact
import ClusterCapacity.Proofs.Json.Workers

/-!
# Workers in any spelling

The members of an object make a worker just when they spell it: each of its parts once under one of
its names, in any order and among members of any other names (`Worker.decode_members`).  A draft
goes from one state to another by what the members of each place spell (`Completed`), and then the
members fill it (`Worker.Completes.filled`).
-/

namespace ClusterCapacity

namespace Json

variable {σ β : Type} {get : σ → Option β} {names : List String} {spells : β → List Token → Prop}
  {draft final : σ} {member : Member} {members : List Member} {name : String}

/-- Nothing is left to come to a place without members. -/
theorem Completed.eq_of_nil (h : Completed get names spells [] draft final) :
    get final = get draft := by
  obtain ⟨values, hvalues, hspells⟩ := h
  cases hspells
  rw [List.append_nil] at hvalues
  simpa only [Option.head?_toList] using congrArg List.head? hvalues

/-- A member of one of the names gives the value of a place that was free. -/
theorem Completed.hit (h : Completed get names spells (member :: members) draft final)
    (hname : member.name.text = .ok name) (hmem : name ∈ names) :
    get draft = none ∧ ∃ x, spells x member.value ∧
      ∀ {next}, get next = some x → Completed get names spells members next final := by
  obtain ⟨values, hvalues, hspells⟩ := h
  rw [MembersSpell, List.filter_cons_of_pos ((Member.isNamed_iff hname).mpr hmem)] at hspells
  cases hspells with
  | @cons x _ values _ hx hspells =>
    -- a place holds one value at most
    have hfree : get draft = none := by
      cases hdraft : get draft with
      | none => rfl
      | some y =>
        have hlength := congrArg List.length hvalues
        have hfinal := (get final).length_toList_le
        rw [hdraft, Option.toList_some, List.length_append, List.length_cons,
          List.length_cons] at hlength
        omega
    refine ⟨hfree, x, hx, fun hnext => ⟨values, ?_, hspells⟩⟩
    rw [hvalues, hfree, hnext]
    rfl

/-- A member of another name leaves a place alone. -/
theorem Completed.miss (h : Completed get names spells (member :: members) draft final)
    (hname : member.name.text = .ok name) (hmem : name ∉ names) {next : σ}
    (hkeep : get next = get draft) : Completed get names spells members next final := by
  obtain ⟨values, hvalues, hspells⟩ := h
  rw [MembersSpell, List.filter_cons_of_neg (mt (Member.isNamed_iff hname).mp hmem)] at hspells
  exact ⟨values, hkeep ▸ hvalues, hspells⟩

/-- What a member adds to a draft is what it brings to the place. -/
theorem Completed.step {read : Reader β} {isGiven : σ → Bool} {update : σ → σ}
    (h : Completed get names spells (member :: members) draft final) (hexact : Exact read spells)
    (hname : member.name.text = .ok name)
    (hfills : FillsPlace get names spells name member.value isGiven update) :
    Completed get names spells members (update draft) final := by
  rcases hfills with ⟨hmem, x, hx, hset⟩ | ⟨hmem, hkeep⟩
  · obtain ⟨-, y, hy, hrest⟩ := h.hit hname hmem
    obtain rfl := hexact.unique hx hy
    exact hrest (hset draft).2
  · exact h.miss hname hmem (hkeep draft)

end Json

open Json Wire

theorem TierMap.exact_shape : Exact TierMap.shape TierMap.Spelled :=
  (Reader.exact_entries _ Reader.exact_int64).map TierMap.ofList

namespace Worker

variable {name : String} {value : List Token} {isGiven : Draft → Bool} {update : Draft → Draft}
  {draft final : Draft} {member : Member} {members : List Member} {worker : Worker}

theorem exact_fields : ∀ field ∈ record.fields, Exact field.read (Yields field.read) := by
  intro field hfield
  simp only [record, List.mem_cons, List.not_mem_nil, or_false] at hfield
  rcases hfield with rfl | rfl | rfl | rfl | rfl | rfl
  · exact (Reader.exact_text.map _).yields
  · exact (Reader.exact_int64.map _).yields
  · exact (Reader.exact_int64.map _).yields
  · exact (Reader.exact_int64.map _).yields
  · exact (TierMap.exact_shape.map _).yields
  · exact (TierMap.exact_shape.map _).yields

/-- What adds a part to a draft is read as a member of the record. -/
theorem Adds.exists_field (h : Adds name value isGiven update) :
    ∃ field, record.field? name = some field ∧ field.isGiven = isGiven ∧
      Yields field.read update value := by
  cases h with
  | host h => exact ⟨_, rfl, rfl, [], (Reader.exact_text.map _).reads ⟨_, h, rfl⟩ []⟩
  | contact h | heartbeat h | capacity h | used h =>
    exact ⟨_, rfl, rfl, [], (Reader.exact_int64.map _).reads ⟨_, h, rfl⟩ []⟩
  | capacityTiers h | usedTiers h =>
    exact ⟨_, rfl, rfl, [], (TierMap.exact_shape.map _).reads ⟨_, h, rfl⟩ []⟩

/-! ### Drafts that are completed -/

/-- Whether members bring each place of a draft to what it holds in another draft. -/
structure Completes (members : List Member) (draft final : Draft) : Prop where
  host : Completed Draft.host ["hostName"] SpellsText members draft final
  heartbeat : Completed Draft.heartbeat ["lastContactSec", "lastHeartbeatSeconds"] SpellsInt64
    members draft final
  capacity : Completed Draft.capacity ["capacityBytes"] SpellsInt64 members draft final
  used : Completed Draft.used ["usedBytes"] SpellsInt64 members draft final
  capacityTiers : Completed Draft.capacityTiers ["capacityBytesOnTiers"] TierMap.Spelled members
    draft final
  usedTiers : Completed Draft.usedTiers ["usedBytesOnTiers"] TierMap.Spelled members draft final
  others : ∀ member ∈ members, (∃ name, member.name.text = .ok name) ∧
    (member.isNamed memberNames = false → IsValue member.value)

theorem Completes.eq_of_nil (h : Completes [] draft final) : final = draft := by
  obtain ⟨host, heartbeat, capacity, used, capacityTiers, usedTiers⟩ := draft
  obtain ⟨host', heartbeat', capacity', used', capacityTiers', usedTiers'⟩ := final
  obtain rfl : host' = host := h.host.eq_of_nil
  obtain rfl : heartbeat' = heartbeat := h.heartbeat.eq_of_nil
  obtain rfl : capacity' = capacity := h.capacity.eq_of_nil
  obtain rfl : used' = used := h.used.eq_of_nil
  obtain rfl : capacityTiers' = capacityTiers := h.capacityTiers.eq_of_nil
  obtain rfl : usedTiers' = usedTiers := h.usedTiers.eq_of_nil
  rfl

/-- A member of a known name gives a part that the draft lacks. -/
theorem Completes.exists_adds (h : Completes (member :: members) draft final)
    (hname : member.name.text = .ok name) (hmem : name ∈ memberNames) :
    ∃ isGiven update, Adds name member.value isGiven update ∧ isGiven draft = false := by
  simp only [memberNames, List.mem_cons, List.not_mem_nil, or_false] at hmem
  rcases hmem with rfl | rfl | rfl | rfl | rfl | rfl | rfl
  · obtain ⟨hfree, x, hx, -⟩ := h.host.hit hname (by decide)
    exact ⟨_, _, .host hx, congrArg Option.isSome hfree⟩
  · obtain ⟨hfree, x, hx, -⟩ := h.heartbeat.hit hname (by decide)
    exact ⟨_, _, .contact hx, congrArg Option.isSome hfree⟩
  · obtain ⟨hfree, x, hx, -⟩ := h.heartbeat.hit hname (by decide)
    exact ⟨_, _, .heartbeat hx, congrArg Option.isSome hfree⟩
  · obtain ⟨hfree, x, hx, -⟩ := h.capacity.hit hname (by decide)
    exact ⟨_, _, .capacity hx, congrArg Option.isSome hfree⟩
  · obtain ⟨hfree, x, hx, -⟩ := h.used.hit hname (by decide)
    exact ⟨_, _, .used hx, congrArg Option.isSome hfree⟩
  · obtain ⟨hfree, x, hx, -⟩ := h.capacityTiers.hit hname (by decide)
    exact ⟨_, _, .capacityTiers hx, congrArg Option.isSome hfree⟩
  · obtain ⟨hfree, x, hx, -⟩ := h.usedTiers.hit hname (by decide)
    exact ⟨_, _, .usedTiers hx, congrArg Option.isSome hfree⟩

/-- The members after a known one go on from the draft with its part. -/
theorem Completes.known (h : Completes (member :: members) draft final)
    (hname : member.name.text = .ok name) (hadds : Adds name member.value isGiven update) :
    Completes members (update draft) final where
  host := h.host.step Reader.exact_text hname hadds.fillsPlaces.host
  heartbeat := h.heartbeat.step Reader.exact_int64 hname hadds.fillsPlaces.heartbeat
  capacity := h.capacity.step Reader.exact_int64 hname hadds.fillsPlaces.capacity
  used := h.used.step Reader.exact_int64 hname hadds.fillsPlaces.used
  capacityTiers := h.capacityTiers.step TierMap.exact_shape hname hadds.fillsPlaces.capacityTiers
  usedTiers := h.usedTiers.step TierMap.exact_shape hname hadds.fillsPlaces.usedTiers
  others := (List.forall_mem_cons.mp h.others).2

/-- The members after an unknown one go on from the same draft. -/
theorem Completes.unknown (h : Completes (member :: members) draft final)
    (hname : member.name.text = .ok name) (hmem : name ∉ memberNames) :
    Completes members draft final := by
  simp only [memberNames, List.mem_cons, List.not_mem_nil, or_false, not_or] at hmem
  exact {
    host := h.host.miss hname (by simp [hmem]) rfl
    heartbeat := h.heartbeat.miss hname (by simp [hmem]) rfl
    capacity := h.capacity.miss hname (by simp [hmem]) rfl
    used := h.used.miss hname (by simp [hmem]) rfl
    capacityTiers := h.capacityTiers.miss hname (by simp [hmem]) rfl
    usedTiers := h.usedTiers.miss hname (by simp [hmem]) rfl
    others := (List.forall_mem_cons.mp h.others).2 }

/-- The record has no member of any other name. -/
theorem field?_eq_none (hmem : name ∉ memberNames) : record.field? name = none := by
  cases hfield : record.field? name with
  | none => rfl
  | some field =>
    obtain ⟨hfields, hnamed⟩ := mem_names_of_field? hfield
    exact absurd (mem_memberNames field hfields name hnamed) hmem

/-- Members that complete a draft fill it. -/
theorem Completes.filled (h : Completes members draft final) :
    Filled record draft members final := by
  induction members generalizing draft with
  | nil =>
    rw [h.eq_of_nil]
    exact .done draft
  | cons member members ih =>
    obtain ⟨⟨⟨name, hname⟩, hvalue⟩, -⟩ := List.forall_mem_cons.mp h.others
    by_cases hmem : name ∈ memberNames
    · obtain ⟨isGiven, update, hadds, hnew⟩ := h.exists_adds hname hmem
      obtain ⟨field, hfield, rfl, hyields⟩ := hadds.exists_field
      exact .known hname hfield hnew hyields (ih (h.known hname hadds))
    · have hother : member.isNamed memberNames = false :=
        Bool.eq_false_iff.mpr (mt (Member.isNamed_iff hname).mp hmem)
      exact .unknown hname (field?_eq_none hmem) (hvalue hother) (ih (h.unknown hname hmem))

/-! ### Whole texts -/

/-- The members that spell a worker fill a draft of it. -/
theorem SpelledByName.exists_filled (h : SpelledByName worker members) :
    ∃ final, Filled record {} members final ∧ final.finish = .ok worker := by
  obtain ⟨host, heartbeat, capacity, used, capacityTiers, usedTiers⟩ := worker
  obtain ⟨tiers, rfl, hcapacityTiers⟩ := h.capacityTiers
  obtain ⟨others, rfl, husedTiers⟩ := h.usedTiers
  refine ⟨⟨some host, some heartbeat, some capacity, some used, tiers, others⟩,
    Completes.filled ?_, rfl⟩
  exact {
    host := ⟨_, rfl, h.host⟩
    heartbeat := ⟨_, rfl, h.heartbeat⟩
    capacity := ⟨_, rfl, h.capacity⟩
    used := ⟨_, rfl, h.used⟩
    capacityTiers := ⟨_, rfl, hcapacityTiers⟩
    usedTiers := ⟨_, rfl, husedTiers⟩
    others := h.others }

/-- A text of an object is decoded as a worker just when its members spell the worker. -/
theorem decode_eq_ok_iff_spelledByName {text : String} (htext : ObjectText members text) :
    decode Worker.shape text = .ok worker ↔ SpelledByName worker members := by
  rw [shape_eq_record, decode_record_iff exact_fields htext]
  constructor
  · rintro ⟨final, hfilled, hfinish⟩
    exact spelledByName_of_filled hfilled hfinish
  · exact SpelledByName.exists_filled

/-- The names of each part that a worker must have. -/
def requiredNames : List (List String) :=
  [["hostName"], ["lastContactSec", "lastHeartbeatSeconds"], ["capacityBytes"], ["usedBytes"]]

/-- The names of each part that a worker may have. -/
def optionalNames : List (List String) := [["capacityBytesOnTiers"], ["usedBytesOnTiers"]]

theorem countP_of_membersSpell {β : Type} {names : List String} {spells : β → List Token → Prop}
    {values : List β} (h : MembersSpell names spells values members) :
    members.countP (Member.isNamed names) = values.length := by
  rw [List.countP_eq_length_filter, h.length_eq]

/-- A part that a worker must have is given once. -/
theorem SpelledByName.countP_required (h : SpelledByName worker members) :
    ∀ names ∈ requiredNames, members.countP (Member.isNamed names) = 1 := by
  simp only [requiredNames, List.forall_mem_cons, List.not_mem_nil, false_imp_iff, implies_true,
    and_true]
  exact ⟨countP_of_membersSpell h.host, countP_of_membersSpell h.heartbeat,
    countP_of_membersSpell h.capacity, countP_of_membersSpell h.used⟩

/-- A part that a worker may have is given once at most. -/
theorem SpelledByName.countP_optional (h : SpelledByName worker members) :
    ∀ names ∈ optionalNames, members.countP (Member.isNamed names) ≤ 1 := by
  obtain ⟨tiers, -, htiers⟩ := h.capacityTiers
  obtain ⟨others, -, hothers⟩ := h.usedTiers
  simp only [optionalNames, List.forall_mem_cons, List.not_mem_nil, false_imp_iff, implies_true,
    and_true, countP_of_membersSpell htiers, countP_of_membersSpell hothers]
  exact ⟨tiers.length_toList_le, others.length_toList_le⟩

/-- How an object is spelled does not matter for the worker that it is decoded as: its members are
told by their unescaped names, in any order and among members of other names.  A part that is given
twice is rejected, under whichever of its names, and so is a part that is missing unless it is a
tier map. -/
theorem decode_members {text : String} (htext : ObjectText members text) :
    (∀ worker, decode Worker.shape text = .ok worker ↔ SpelledByName worker members) ∧
    (∀ names ∈ requiredNames ++ optionalNames, 2 ≤ members.countP (Member.isNamed names) →
      ∃ error, decode Worker.shape text = .error error) ∧
    (∀ names ∈ requiredNames, members.countP (Member.isNamed names) = 0 →
      ∃ error, decode Worker.shape text = .error error) := by
  have hiff (worker : Worker) : decode Worker.shape text = .ok worker ↔
      SpelledByName worker members := decode_eq_ok_iff_spelledByName htext
  -- whatever contradicts the spelling of a worker is an error
  have hreject (h : ∀ worker, ¬ SpelledByName worker members) :
      ∃ error, decode Worker.shape text = .error error := by
    cases hresult : decode Worker.shape text with
    | ok worker => exact absurd ((hiff worker).mp hresult) (h worker)
    | error error => exact ⟨error, rfl⟩
  refine ⟨hiff, fun names hnames htwice => hreject fun worker hspelled => ?_,
    fun names hnames hnone => hreject fun worker hspelled => ?_⟩
  · rcases List.mem_append.mp hnames with hnames | hnames
    · have honce := hspelled.countP_required names hnames
      omega
    · have honce := hspelled.countP_optional names hnames
      omega
  · have honce := hspelled.countP_required names hnames
    omega

/-- A member that nobody asked for, an escape in a name and the other name of the heartbeat; then
the heartbeat under both names. -/
theorem decode_members_shuffled :
    let name (text : String) : Quoted := ⟨text.toList.map .char, none⟩
    let number (negative : Bool) (digit : Char) : List Token :=
      [.number (.ok ⟨negative, [digit], none, none⟩)]
    let heartbeat : Member := ⟨name "lastHeartbeatSeconds", number true '5'⟩
    let members : List Member := [
      ⟨name "x", listTokens [[.number (.ok ⟨false, ['1'], none, some ⟨false, ['9', '9', '9']⟩⟩)]]⟩,
      ⟨⟨"host".toList.map .char ++ .unit 78 :: "ame".toList.map .char, none⟩, [.string (name "w")]⟩,
      ⟨name "usedBytes", number false '7'⟩, ⟨name "capacityBytes", number false '9'⟩, heartbeat]
    let text := "\x7b \"x\": [1e999], \"host\\u004eame\": \"w\",\n\"usedBytes\": 7,"
      ++ "\"capacityBytes\": 9, \"lastHeartbeatSeconds\": -5\x7d"
    let twice : List Member := [⟨name "lastContactSec", number false '5'⟩, heartbeat]
    let clash := "\x7b\"lastContactSec\": 5, \"lastHeartbeatSeconds\": -5\x7d"
    ObjectText members text ∧ decode Worker.shape text = .ok ⟨"w", -5, 9, 7, ∅, ∅⟩ ∧
      ObjectText twice clash ∧ ∃ error, decode Worker.shape clash = .error error := by
  intro name number heartbeat members text twice clash
  have hnames : ∀ member ∈ members ++ twice, ∃ name, member.name.text = .ok name := by
    simp only [members, twice, List.cons_append, List.nil_append, List.forall_mem_cons]
    exact ⟨⟨_, rfl⟩, ⟨_, rfl⟩, ⟨_, rfl⟩, ⟨_, rfl⟩, ⟨_, rfl⟩, ⟨_, rfl⟩, ⟨_, rfl⟩, nofun⟩
  have hvalues : ∀ member ∈ members ++ twice, IsValue member.value := by
    simp only [members, twice, List.cons_append, List.nil_append, List.forall_mem_cons]
    exact ⟨.list (List.forall_mem_singleton.mpr (.scalar rfl)), .scalar rfl, .scalar rfl,
      .scalar rfl, .scalar rfl, .scalar rfl, .scalar rfl, nofun⟩
  have htext : ObjectText members text :=
    .of_scan (fun member hmember => hnames member (List.mem_append_left _ hmember))
      (fun member hmember => hvalues member (List.mem_append_left _ hmember)) (by decide +kernel)
  have hclash : ObjectText twice clash :=
    .of_scan (fun member hmember => hnames member (List.mem_append_right _ hmember))
      (fun member hmember => hvalues member (List.mem_append_right _ hmember)) (by decide +kernel)
  have hspelled : SpelledByName ⟨"w", -5, 9, 7, ∅, ∅⟩ members := {
    host := .cons ⟨_, rfl, rfl⟩ .nil
    heartbeat := .cons ⟨_, rfl, rfl⟩ .nil
    capacity := .cons ⟨_, rfl, rfl⟩ .nil
    used := .cons ⟨_, rfl, rfl⟩ .nil
    capacityTiers := ⟨none, rfl, .nil⟩
    usedTiers := ⟨none, rfl, .nil⟩
    others := fun member hmember =>
      ⟨hnames member (List.mem_append_left _ hmember), fun _ => htext.values member hmember⟩ }
  have hpart : ["lastContactSec", "lastHeartbeatSeconds"] ∈ requiredNames ++ optionalNames := by
    simp [requiredNames]
  have hcount : 2 ≤ twice.countP (Member.isNamed ["lastContactSec", "lastHeartbeatSeconds"]) := by
    decide +kernel
  exact ⟨htext, ((decode_members htext).1 _).mpr hspelled, hclash,
    (decode_members hclash).2.1 _ hpart hcount⟩

end Worker

end ClusterCapacity
