import ClusterCapacity.Proofs.Json.Sound
import ClusterCapacity.Wire.Shape

/-!
# Workers in JSON

A worker is spelled by an object of which the members, told by their names, give each of its parts
just once in any order, among any members of other names; the tier maps may be left out.  Or it is
spelled by a list of its parts in order, of which the tier maps may be missing at the end.  Whatever
the shape of a worker takes spells the worker it gives (`Worker.sound_shape`).
-/

namespace ClusterCapacity

namespace Json

/-- Whether the name of a member is one of the given names. -/
def Member.isNamed (names : List String) (member : Member) : Bool :=
  match member.name.text with
  | .ok name => names.contains name
  | .error _ => false

/-- Whether the members of the given names spell the values, one member for each value. -/
def MembersSpell {α : Type} (names : List String) (spells : α → List Token → Prop)
    (values : List α) (members : List Member) : Prop :=
  List.Forall₂ (fun value member => spells value member.value) values
    (members.filter (Member.isNamed names))

variable {σ α β : Type} {record : Wire.Record Reader σ α} {names : List String}
  {spells : β → List Token → Prop} {get : σ → Option β} {draft final : σ} {members : List Member}

theorem Member.isNamed_iff {member : Member} {name : String} (h : member.name.text = .ok name) :
    member.isNamed names = true ↔ name ∈ names := by
  simp only [isNamed, h, List.contains_iff_mem]

/-- A known member goes by its name or by one of its other names. -/
theorem mem_names_of_field? {name : String} {field : Wire.Field Reader σ}
    (h : record.field? name = some field) :
    field ∈ record.fields ∧ name ∈ field.name :: field.otherNames := by
  have hnamed := List.find?_some h
  rw [Wire.Field.isNamed, Bool.or_eq_true, decide_eq_true_iff, List.contains_iff_mem] at hnamed
  exact ⟨List.mem_of_find?_eq_some h, List.mem_cons.mpr (hnamed.imp_left Eq.symm)⟩

/-- Whether a place of a draft comes to hold, besides what it holds already, what the members of
some names spell. -/
def Completed (get : σ → Option β) (names : List String) (spells : β → List Token → Prop)
    (members : List Member) (draft final : σ) : Prop :=
  ∃ values, (get final).toList = (get draft).toList ++ values ∧
    MembersSpell names spells values members

/-- Whether a member of a name fills one place of a draft if the name is one of the given, and else
leaves the place alone. -/
def FillsPlace (get : σ → Option β) (names : List String) (spells : β → List Token → Prop)
    (name : String) (value : List Token) (isGiven : σ → Bool) (update : σ → σ) : Prop :=
  (name ∈ names ∧ ∃ x, spells x value ∧
    ∀ draft, isGiven draft = (get draft).isSome ∧ get (update draft) = some x) ∨
  (name ∉ names ∧ ∀ draft, get (update draft) = get draft)

/-- Members that fill a draft complete each place of it. -/
theorem Filled.completed
    (hplace : ∀ {name field update value}, record.field? name = some field →
      Yields field.read update value → FillsPlace get names spells name value field.isGiven update)
    (hknown : ∀ name ∈ names, (record.field? name).isSome) (h : Filled record draft members final) :
    Completed get names spells members draft final := by
  induction h with
  | done draft => exact ⟨[], (List.append_nil _).symm, .nil⟩
  | @known draft final member members name field update hname hfield hnew hread hrest ih =>
    obtain ⟨values, hvalues, hspells⟩ := ih
    rcases hplace hfield hread with ⟨hmem, x, hx, hset⟩ | ⟨hmem, hkeep⟩
    · obtain ⟨hgiven, hget⟩ := hset draft
      have hnone : get draft = none := by
        rw [← Option.not_isSome_iff_eq_none, ← hgiven, hnew]
        exact Bool.false_ne_true
      refine ⟨x :: values, ?_, ?_⟩
      · rw [hvalues, hget, hnone]
        rfl
      · rw [MembersSpell, List.filter_cons_of_pos ((Member.isNamed_iff hname).mpr hmem)]
        exact .cons hx hspells
    · refine ⟨values, hkeep draft ▸ hvalues, ?_⟩
      rw [MembersSpell, List.filter_cons_of_neg (mt (Member.isNamed_iff hname).mp hmem)]
      exact hspells
  | @unknown draft final member members name hname hfield hvalue hrest ih =>
    obtain ⟨values, hvalues, hspells⟩ := ih
    have hmem : name ∉ names := fun hmem => by
      have hsome := hknown name hmem
      rw [hfield] at hsome
      nomatch hsome
    refine ⟨values, hvalues, ?_⟩
    rw [MembersSpell, List.filter_cons_of_neg (mt (Member.isNamed_iff hname).mp hmem)]
    exact hspells

/-- What comes to stand at a place that was free is spelled by the members of its names. -/
theorem Filled.membersSpell
    (hplace : ∀ {name field update value}, record.field? name = some field →
      Yields field.read update value → FillsPlace get names spells name value field.isGiven update)
    (hknown : ∀ name ∈ names, (record.field? name).isSome)
    (h : Filled record draft members final) (hfree : get draft = none) :
    MembersSpell names spells (get final).toList members := by
  obtain ⟨values, hvalues, hspells⟩ := h.completed hplace hknown
  rw [hvalues, hfree]
  exact hspells

/-- Every member has a name, and a value of any kind if its name is not one of the record. -/
theorem Filled.names_values
    (hknown : ∀ field ∈ record.fields, ∀ name ∈ field.name :: field.otherNames, name ∈ names)
    (h : Filled record draft members final) : ∀ member ∈ members,
      (∃ name, member.name.text = .ok name) ∧
        (member.isNamed names = false → IsValue member.value) := by
  induction h with
  | done draft => nofun
  | @known draft final member members name field update hname hfield hnew hread hrest ih =>
    refine List.forall_mem_cons.mpr ⟨⟨⟨name, hname⟩, fun hother => ?_⟩, ih⟩
    obtain ⟨hmem, hnamed⟩ := mem_names_of_field? hfield
    rw [(Member.isNamed_iff hname).mpr (hknown field hmem name hnamed)] at hother
    nomatch hother
  | @unknown draft final member members name hname hfield hvalue hrest ih =>
    exact List.forall_mem_cons.mpr ⟨⟨⟨name, hname⟩, fun _ => hvalue⟩, ih⟩

end Json

open Json Wire

/-- Whether tokens are an object of which the members spell the counts of tiers; counts of one name
are added up. -/
def TierMap.Spelled (tiers : TierMap) (tokens : List Token) : Prop :=
  ∃ pairs, SpellsPairs SpellsInt64 pairs tokens ∧ tiers = TierMap.ofList pairs

theorem TierMap.sound_shape : Sound TierMap.shape TierMap.Spelled :=
  Sound.map TierMap.ofList (Reader.sound_entries _ Reader.sound_int64)

theorem TierMap.careful_shape : Careful TierMap.shape :=
  (Reader.careful_entries _ Reader.careful_int64).map TierMap.ofList

namespace Worker

/-! ### Spelled workers -/

/-- The names of the members of a worker. -/
def memberNames : List String :=
  ["hostName", "lastContactSec", "lastHeartbeatSeconds", "capacityBytes", "usedBytes",
    "capacityBytesOnTiers", "usedBytesOnTiers"]

/-- Whether the members of an object spell a worker. -/
structure SpelledByName (worker : Worker) (members : List Member) : Prop where
  host : MembersSpell ["hostName"] SpellsText [worker.host] members
  heartbeat : MembersSpell ["lastContactSec", "lastHeartbeatSeconds"] SpellsInt64
    [worker.heartbeat] members
  capacity : MembersSpell ["capacityBytes"] SpellsInt64 [worker.capacity] members
  used : MembersSpell ["usedBytes"] SpellsInt64 [worker.used] members
  capacityTiers : ∃ tiers : Option TierMap, worker.capacityTiers = tiers.getD ∅ ∧
    MembersSpell ["capacityBytesOnTiers"] TierMap.Spelled tiers.toList members
  usedTiers : ∃ tiers : Option TierMap, worker.usedTiers = tiers.getD ∅ ∧
    MembersSpell ["usedBytesOnTiers"] TierMap.Spelled tiers.toList members
  /-- A member of another name may hold any value. -/
  others : ∀ member ∈ members, (∃ name, member.name.text = .ok name) ∧
    (member.isNamed memberNames = false → IsValue member.value)

/-- Whether the items at the end of a list spell the tier maps of a worker. -/
def TiersByPlace (worker : Worker) : List (List Token) → Prop
  | [] => worker.capacityTiers = ∅ ∧ worker.usedTiers = ∅
  | [capacity] => worker.capacityTiers.Spelled capacity ∧ worker.usedTiers = ∅
  | [capacity, used] => worker.capacityTiers.Spelled capacity ∧ worker.usedTiers.Spelled used
  | _ => False

/-- Whether the items of a list spell a worker. -/
inductive SpelledByPlace (worker : Worker) : List (List Token) → Prop where
  | intro {host heartbeat capacity used : List Token} {tiers : List (List Token)}
    (hhost : SpellsText worker.host host) (hheartbeat : SpellsInt64 worker.heartbeat heartbeat)
    (hcapacity : SpellsInt64 worker.capacity capacity) (hused : SpellsInt64 worker.used used)
    (htiers : TiersByPlace worker tiers) :
    SpelledByPlace worker (host :: heartbeat :: capacity :: used :: tiers)

/-- Whether tokens spell a worker, in either notation of a record. -/
def Spelled (worker : Worker) (tokens : List Token) : Prop :=
  (∃ members, SpelledByName worker members ∧ tokens = objectTokens members) ∨
    ∃ items, SpelledByPlace worker items ∧ tokens = listTokens items

/-! ### The members of a draft -/

/-- The record that is read from JSON as a worker. -/
def record : Record Reader Draft Worker where
  title := "struct WorkerRecord"
  fields := [
    .of "hostName" Draft.host (fun x draft => { draft with host := some x }) Reader.text,
    { Field.of "lastContactSec" Draft.heartbeat
        (fun x draft => { draft with heartbeat := some x }) Reader.int64 with
      otherNames := ["lastHeartbeatSeconds"] },
    .of "capacityBytes" Draft.capacity
      (fun x draft => { draft with capacity := some x }) Reader.int64,
    .of "usedBytes" Draft.used (fun x draft => { draft with used := some x }) Reader.int64,
    { Field.of "capacityBytesOnTiers" Draft.capacityTiers
        (fun x draft => { draft with capacityTiers := some x }) TierMap.shape with
      mayBeAbsent := true },
    { Field.of "usedBytesOnTiers" Draft.usedTiers
        (fun x draft => { draft with usedTiers := some x }) TierMap.shape with
      mayBeAbsent := true }]
  blank := {}
  finish := Draft.finish

theorem shape_eq_record : Worker.shape = Reader.record record := rfl

/-- What a member of a worker is to a draft: when it is there already, and what it adds. -/
inductive Adds : String → List Token → (Draft → Bool) → (Draft → Draft) → Prop where
  | host {x : String} {value : List Token} (h : SpellsText x value) :
    Adds "hostName" value (fun draft => draft.host.isSome)
      (fun draft => { draft with host := some x })
  | contact {x : Int64} {value : List Token} (h : SpellsInt64 x value) :
    Adds "lastContactSec" value (fun draft => draft.heartbeat.isSome)
      (fun draft => { draft with heartbeat := some x })
  | heartbeat {x : Int64} {value : List Token} (h : SpellsInt64 x value) :
    Adds "lastHeartbeatSeconds" value (fun draft => draft.heartbeat.isSome)
      (fun draft => { draft with heartbeat := some x })
  | capacity {x : Int64} {value : List Token} (h : SpellsInt64 x value) :
    Adds "capacityBytes" value (fun draft => draft.capacity.isSome)
      (fun draft => { draft with capacity := some x })
  | used {x : Int64} {value : List Token} (h : SpellsInt64 x value) :
    Adds "usedBytes" value (fun draft => draft.used.isSome)
      (fun draft => { draft with used := some x })
  | capacityTiers {x : TierMap} {value : List Token} (h : x.Spelled value) :
    Adds "capacityBytesOnTiers" value (fun draft => draft.capacityTiers.isSome)
      (fun draft => { draft with capacityTiers := some x })
  | usedTiers {x : TierMap} {value : List Token} (h : x.Spelled value) :
    Adds "usedBytesOnTiers" value (fun draft => draft.usedTiers.isSome)
      (fun draft => { draft with usedTiers := some x })

variable {name : String} {field : Field Reader Draft} {update : Draft → Draft}
  {value : List Token} {draft final : Draft} {worker : Worker}

/-- Whether a member of a name fills the place of a draft that goes by the name, and leaves the
other places alone. -/
structure FillsPlaces (name : String) (value : List Token) (isGiven : Draft → Bool)
    (update : Draft → Draft) : Prop where
  host : FillsPlace Draft.host ["hostName"] SpellsText name value isGiven update
  heartbeat : FillsPlace Draft.heartbeat ["lastContactSec", "lastHeartbeatSeconds"] SpellsInt64 name
    value isGiven update
  capacity : FillsPlace Draft.capacity ["capacityBytes"] SpellsInt64 name value isGiven update
  used : FillsPlace Draft.used ["usedBytes"] SpellsInt64 name value isGiven update
  capacityTiers : FillsPlace Draft.capacityTiers ["capacityBytesOnTiers"] TierMap.Spelled name value
    isGiven update
  usedTiers : FillsPlace Draft.usedTiers ["usedBytesOnTiers"] TierMap.Spelled name value isGiven
    update

theorem Adds.fillsPlaces {isGiven : Draft → Bool} (h : Adds name value isGiven update) :
    FillsPlaces name value isGiven update := by
  cases h <;> constructor <;> first
    | exact .inl ⟨by decide, _, by assumption, fun _ => ⟨rfl, rfl⟩⟩
    | exact .inr ⟨by decide, fun _ => rfl⟩

/-- A known member adds its part to the draft. -/
theorem adds_of_field? (hfield : record.field? name = some field)
    (h : Yields field.read update value) : Adds name value field.isGiven update := by
  obtain ⟨hmem, hnamed⟩ := mem_names_of_field? hfield
  simp only [record, List.mem_cons, List.not_mem_nil, or_false] at hmem
  rcases hmem with rfl | rfl | rfl | rfl | rfl | rfl <;> obtain ⟨x, hyields, rfl⟩ := Yields.of_map h
  · obtain rfl := List.mem_singleton.mp hnamed
    exact .host (Reader.sound_text.spells_of_yields hyields)
  · obtain rfl | hnamed := List.mem_cons.mp hnamed
    · exact .contact (Reader.sound_int64.spells_of_yields hyields)
    · obtain rfl := List.mem_singleton.mp hnamed
      exact .heartbeat (Reader.sound_int64.spells_of_yields hyields)
  · obtain rfl := List.mem_singleton.mp hnamed
    exact .capacity (Reader.sound_int64.spells_of_yields hyields)
  · obtain rfl := List.mem_singleton.mp hnamed
    exact .used (Reader.sound_int64.spells_of_yields hyields)
  · obtain rfl := List.mem_singleton.mp hnamed
    exact .capacityTiers (TierMap.sound_shape.spells_of_yields hyields)
  · obtain rfl := List.mem_singleton.mp hnamed
    exact .usedTiers (TierMap.sound_shape.spells_of_yields hyields)

theorem careful_fields : ∀ field ∈ record.fields, Careful field.read := by
  intro field hfield
  simp only [record, List.mem_cons, List.not_mem_nil, or_false] at hfield
  rcases hfield with rfl | rfl | rfl | rfl | rfl | rfl
  · exact Reader.careful_text.map _
  · exact Reader.careful_int64.map _
  · exact Reader.careful_int64.map _
  · exact Reader.careful_int64.map _
  · exact TierMap.careful_shape.map _
  · exact TierMap.careful_shape.map _

theorem mem_memberNames : ∀ field ∈ record.fields, ∀ name ∈ field.name :: field.otherNames,
    name ∈ memberNames := by
  decide

/-- The parts of a worker are in the draft that it is finished from. -/
theorem of_finish (h : final.finish = .ok worker) :
    final.host.toList = [worker.host] ∧ final.heartbeat.toList = [worker.heartbeat] ∧
      final.capacity.toList = [worker.capacity] ∧ final.used.toList = [worker.used] ∧
      worker.capacityTiers = final.capacityTiers.getD ∅ ∧
      worker.usedTiers = final.usedTiers.getD ∅ := by
  obtain ⟨host, heartbeat, capacity, used, capacityTiers, usedTiers⟩ := final
  cases host with
  | none => nomatch h
  | some host =>
    cases heartbeat with
    | none => nomatch h
    | some heartbeat =>
      cases capacity with
      | none => nomatch h
      | some capacity =>
        cases used with
        | none => nomatch h
        | some used =>
          cases h
          exact ⟨rfl, rfl, rfl, rfl, rfl, rfl⟩

/-! ### Both notations -/

/-- The members of some names spell what they add to the draft. -/
theorem membersSpell_of_adds {β : Type} {get : Draft → Option β} {names : List String}
    {spells : β → List Token → Prop} {members : List Member} (h : Filled record {} members final)
    (hknown : ∀ name ∈ names, (record.field? name).isSome) (hfree : get {} = none)
    (hadds : ∀ {name value isGiven update}, Adds name value isGiven update →
      FillsPlace get names spells name value isGiven update) :
    MembersSpell names spells (get final).toList members :=
  h.membersSpell (fun hfield hyields => hadds (adds_of_field? hfield hyields)) hknown hfree

/-- An object of which the members fill a draft spells the worker of the draft. -/
theorem spelledByName_of_filled {members : List Member} (h : Filled record {} members final)
    (hfinish : final.finish = .ok worker) : SpelledByName worker members := by
  obtain ⟨hhost, hheartbeat, hcapacity, hused, hcapacityTiers, husedTiers⟩ := of_finish hfinish
  exact {
    host := hhost ▸ membersSpell_of_adds h (by decide) rfl fun hadds => hadds.fillsPlaces.host
    heartbeat :=
      hheartbeat ▸ membersSpell_of_adds h (by decide) rfl fun hadds => hadds.fillsPlaces.heartbeat
    capacity :=
      hcapacity ▸ membersSpell_of_adds h (by decide) rfl fun hadds => hadds.fillsPlaces.capacity
    used := hused ▸ membersSpell_of_adds h (by decide) rfl fun hadds => hadds.fillsPlaces.used
    capacityTiers := ⟨_, hcapacityTiers,
      membersSpell_of_adds h (by decide) rfl fun hadds => hadds.fillsPlaces.capacityTiers⟩
    usedTiers := ⟨_, husedTiers,
      membersSpell_of_adds h (by decide) rfl fun hadds => hadds.fillsPlaces.usedTiers⟩
    others := h.names_values mem_memberNames }

/-- A list of which the items are placed in a draft spells the worker of the draft. -/
theorem spelledByPlace_of_placed {items : List (List Token)}
    (h : Placed record.fields {} items final) (hfinish : final.finish = .ok worker) :
    SpelledByPlace worker items := by
  -- one step for each part; only the tier maps may be missing
  rcases h with habsent | ⟨hyields, h⟩
  · nomatch habsent _ (List.mem_cons_self ..)
  obtain ⟨host, hhost, rfl⟩ := Yields.of_map hyields
  rcases h with habsent | ⟨hyields, h⟩
  · nomatch habsent _ (List.mem_cons_self ..)
  obtain ⟨heartbeat, hheartbeat, rfl⟩ := Yields.of_map hyields
  rcases h with habsent | ⟨hyields, h⟩
  · nomatch habsent _ (List.mem_cons_self ..)
  obtain ⟨capacity, hcapacity, rfl⟩ := Yields.of_map hyields
  rcases h with habsent | ⟨hyields, h⟩
  · nomatch habsent _ (List.mem_cons_self ..)
  obtain ⟨used, hused, rfl⟩ := Yields.of_map hyields
  have hhost := Reader.sound_text.spells_of_yields hhost
  have hheartbeat := Reader.sound_int64.spells_of_yields hheartbeat
  have hcapacity := Reader.sound_int64.spells_of_yields hcapacity
  have hused := Reader.sound_int64.spells_of_yields hused
  rcases h with - | ⟨hyields, h⟩
  · cases hfinish
    exact ⟨hhost, hheartbeat, hcapacity, hused, rfl, rfl⟩
  obtain ⟨capacityTiers, hcapacityTiers, rfl⟩ := Yields.of_map hyields
  have hcapacityTiers := TierMap.sound_shape.spells_of_yields hcapacityTiers
  rcases h with - | ⟨hyields, h⟩
  · cases hfinish
    exact ⟨hhost, hheartbeat, hcapacity, hused, hcapacityTiers, rfl⟩
  obtain ⟨usedTiers, husedTiers, rfl⟩ := Yields.of_map hyields
  have husedTiers := TierMap.sound_shape.spells_of_yields husedTiers
  rcases h with - | -
  cases hfinish
  exact ⟨hhost, hheartbeat, hcapacity, hused, hcapacityTiers, husedTiers⟩

theorem sound_shape : Sound Worker.shape Spelled := by
  rw [shape_eq_record]
  refine ⟨fun {tokens worker rest} h => ?_⟩
  obtain ⟨taken, rfl, final, hfinish, hnotation⟩ :=
    (Reader.sound_record fun field hfield => (careful_fields field hfield).yields).exists_taken h
  refine ⟨taken, rfl, hnotation.imp ?_ ?_⟩
  · rintro ⟨members, hmembers, rfl⟩
    exact ⟨members, spelledByName_of_filled hmembers hfinish, rfl⟩
  · rintro ⟨items, hitems, rfl⟩
    exact ⟨items, spelledByPlace_of_placed hitems hfinish, rfl⟩

theorem sound_listShape : Sound Worker.listShape (SpellsList Spelled) :=
  Reader.sound_list sound_shape

theorem careful_listShape : Careful Worker.listShape :=
  Reader.careful_list (Reader.careful_record careful_fields)

end Worker

end ClusterCapacity
