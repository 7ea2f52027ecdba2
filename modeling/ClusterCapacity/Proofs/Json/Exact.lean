import ClusterCapacity.Proofs.Json.Reader
import ClusterCapacity.Proofs.Json.Recognition

/-!
# Readers take just what is spelled

`Exact read spells` says that `read` takes from the head of any list whatever spells a value, and
nothing else, and that what spells a value is a JSON value.  Each way of reading has a lemma that
gives `Exact` from `Exact` for its parts.  So a text of a value is decoded just as what its tokens
spell (`decode_eq_ok_iff`), and a text of an object just as the record that its members fill, in
whatever order they are and whatever members of other names stand between them
(`decode_record_iff`).
-/

namespace ClusterCapacity.Json

open Wire

/-- Whether a reader takes just what spells a value. -/
structure Exact {α : Type} (read : Reader α) (spells : α → List Token → Prop) : Prop
    extends Sound read spells where
  reads {value : α} {tokens : List Token} (h : spells value tokens) : Reads read value tokens
  isValue {value : α} {tokens : List Token} (h : spells value tokens) : IsValue tokens

section

variable {α β : Type} {read : Reader α} {spells : α → List Token → Prop}

theorem Exact.map (f : α → β) (h : Exact read spells) :
    Exact (f <$> read) (fun value tokens => ∃ x, spells x tokens ∧ value = f x) where
  toSound := h.toSound.map f
  reads := fun ⟨_, hx, heq⟩ => heq ▸ (h.reads hx).map f
  isValue := fun ⟨_, hx, _⟩ => h.isValue hx

/-- Tokens spell one value at most. -/
theorem Exact.unique {value other : α} {tokens : List Token} (h : Exact read spells)
    (hvalue : spells value tokens) (hother : spells other tokens) : value = other := by
  have heq := h.reads hvalue []
  rw [h.reads hother []] at heq
  exact (Prod.mk.inj (Except.ok.inj heq)).1.symm

/-- What a reader takes where something follows, it takes whatever follows. -/
theorem Exact.yields (h : Exact read spells) : Exact read (Yields read) where
  toSound := h.toSound.yields
  reads := fun hyields => h.reads (h.spells_of_yields hyields)
  isValue := fun hyields => h.isValue (h.spells_of_yields hyields)

end

/-- A string that is a text carries no fault. -/
theorem Quoted.check_of_text {string : Quoted} {text : String} (h : string.text = .ok text) :
    string.check = .ok () := by
  rw [check, fault_of_text h]

namespace Reader

/-! ### Single values and maps -/

theorem exact_int64 : Exact Reader.int64 SpellsInt64 where
  toSound := sound_int64
  reads := by
    rintro value - ⟨numeral, hvalue, rfl⟩ rest
    have hfits := Decimal.fitsInt64_toInt value
    simp only [List.singleton_append, int64, hvalue, ofFault, bind, Except.bind, hfits,
      ↓reduceIte, Int64.ofInt_toInt]
  isValue := by
    rintro value - ⟨numeral, -, rfl⟩
    exact .scalar rfl

theorem exact_text : Exact Reader.text SpellsText where
  toSound := sound_text
  reads := by
    rintro text - ⟨string, htext, rfl⟩ rest
    simp only [List.singleton_append, Reader.text, Reader.string, htext, ofFault, bind,
      Except.bind]
  isValue := by
    rintro text - ⟨string, htext, rfl⟩
    exact .scalar (Quoted.check_of_text htext)

theorem exact_entries {α : Type} {read : Reader α} {spells : α → List Token → Prop}
    (expected : String) (h : Exact read spells) :
    Exact (Reader.entries expected read) (SpellsPairs spells) where
  toSound := sound_entries expected h.toSound
  reads := by
    rintro pairs - ⟨members, hmembers, rfl⟩
    exact reads_object expected
      ⟨members, hmembers.imp fun _ _ ⟨hname, hvalue⟩ => ⟨hname, h.reads hvalue⟩, rfl⟩
  isValue := by
    rintro pairs - ⟨members, hmembers, rfl⟩
    exact .object (forall_of_forall₂ hmembers fun hmember => Quoted.check_of_text hmember.1)
      (forall_of_forall₂ hmembers fun hmember => h.isValue hmember.2)

/-! ### Records -/

variable {σ α : Type} {record : Record Reader σ α} {draft final : σ} {members : List Member}

/-- A member of an unknown name is passed over. -/
theorem namedFields_unknown {fuel : Nat} {name : String} {member : Member}
    (hname : member.name.text = .ok name) (hfield : record.field? name = none)
    (hvalue : IsValue member.value) (first : Bool) (members : List Member) (rest : List Token) :
    namedFields record (fuel + 1) first draft (membersFrom first (member :: members) ++ rest)
      = namedFields record fuel false draft (membersFrom false members ++ rest) := by
  have hskip := skip_value hvalue (membersFrom false members ++ rest)
  rw [membersFrom, Member.tokens]
  simp only [List.cons_append, List.append_assoc, namedFields, nextMember_of_text hname, hfield,
    colon, ofFault, bind, Except.bind, hskip]

/-- Members that fill a draft are read up to the closing brace. -/
theorem namedFields_filled
    (hexact : ∀ field ∈ record.fields, Exact field.read (Yields field.read))
    (h : Filled record draft members final) (first : Bool) (rest : List Token) {fuel : Nat}
    (hfuel : members.length < fuel) :
    namedFields record fuel first draft (membersFrom first members ++ rest)
      = .ok (final, .closeObject :: rest) := by
  induction h generalizing fuel first with
  | done draft =>
    obtain ⟨fuel, rfl⟩ := Nat.exists_eq_succ_of_ne_zero (Nat.ne_zero_of_lt hfuel)
    rfl
  | known hname hfield hnew hread _ ih =>
    obtain ⟨fuel, rfl⟩ := Nat.exists_eq_succ_of_ne_zero (Nat.ne_zero_of_lt hfuel)
    have hreads := (hexact _ (List.mem_of_find?_eq_some hfield)).reads hread
    rw [namedFields_known hname hfield hnew hreads]
    exact ih false (Nat.lt_of_succ_lt_succ hfuel)
  | unknown hname hfield hvalue _ ih =>
    obtain ⟨fuel, rfl⟩ := Nat.exists_eq_succ_of_ne_zero (Nat.ne_zero_of_lt hfuel)
    rw [namedFields_unknown hname hfield hvalue]
    exact ih false (Nat.lt_of_succ_lt_succ hfuel)

/-- An object is read as the record of the draft that its members fill. -/
theorem reads_filled {value : α}
    (hexact : ∀ field ∈ record.fields, Exact field.read (Yields field.read))
    (h : Filled record record.blank members final) (hfinish : record.finish final = .ok value) :
    Reads (Reader.record record) value (objectTokens members) :=
  record_objectTokens (fun rest hfuel => namedFields_filled hexact h true rest hfuel) hfinish

theorem isValue_of_filled
    (hexact : ∀ field ∈ record.fields, Exact field.read (Yields field.read))
    (h : Filled record draft members final) : ∀ member ∈ members, IsValue member.value := by
  induction h with
  | done => nofun
  | known hname hfield _ hread _ ih =>
    have hvalue := (hexact _ (List.mem_of_find?_eq_some hfield)).isValue hread
    exact List.forall_mem_cons.mpr ⟨hvalue, ih⟩
  | unknown _ _ hvalue _ ih => exact List.forall_mem_cons.mpr ⟨hvalue, ih⟩

end Reader

/-! ### Whole texts -/

/-- Whether a text is an object of the given members, each with a string for a name and a value of
any kind. -/
structure ObjectText (members : List Member) (text : String) : Prop where
  names : ∀ member ∈ members, member.name.check = .ok ()
  values : ∀ member ∈ members, IsValue member.value
  spelling : Spelling (objectTokens members) text.toList

theorem ObjectText.of_scan {members : List Member} {text : String}
    (hnames : ∀ member ∈ members, ∃ name, member.name.text = .ok name)
    (hvalues : ∀ member ∈ members, IsValue member.value)
    (hscan : Token.scan text.toList = objectTokens members) : ObjectText members text := by
  have hchecks : ∀ member ∈ members, member.name.check = .ok () := fun member hmember =>
    have ⟨_, hname⟩ := hnames member hmember
    Quoted.check_of_text hname
  exact ⟨hchecks, hvalues, (spelling_iff (.object hchecks hvalues)).mpr hscan⟩

section

variable {σ α : Type} {read : Reader α} {spells : α → List Token → Prop} {value : α}
  {members : List Member} {tokens : List Token} {text : String}

/-- A text of a value is decoded just as what its tokens spell. -/
theorem decode_eq_ok_iff (hexact : Exact read spells) (hvalue : IsValue tokens)
    (hspelling : Spelling tokens text.toList) :
    decode read text = .ok value ↔ spells value tokens := by
  have hscan := (spelling_iff hvalue).mp hspelling
  constructor
  · intro h
    rw [← hscan]
    exact spells_of_decode hexact.toSound h
  · intro h
    exact decode_of_scan hscan (hexact.reads h)

/-- A text of an object is decoded just as the record of the draft that its members fill. -/
theorem decode_record_iff {record : Record Reader σ α}
    (hexact : ∀ field ∈ record.fields, Exact field.read (Yields field.read))
    (htext : ObjectText members text) :
    decode (Reader.record record) text = .ok value ↔
      ∃ final, Filled record record.blank members final ∧ record.finish final = .ok value := by
  have hscan := (spelling_iff (.object htext.names htext.values)).mp htext.spelling
  constructor
  · intro h
    have hspells := spells_of_decode
      (Reader.sound_record fun field hfield => (hexact field hfield).toSound) h
    rw [hscan] at hspells
    -- an object is no list, and has these members only
    obtain ⟨final, hfinish, ⟨others, hfilled, heq⟩ | ⟨items, -, heq⟩⟩ := hspells
    · rw [objectTokens_inj htext.values (Reader.isValue_of_filled hexact hfilled) heq]
      exact ⟨final, hfilled, hfinish⟩
    · nomatch heq
  · rintro ⟨final, hfilled, hfinish⟩
    exact decode_of_scan hscan (Reader.reads_filled hexact hfilled hfinish)

end

end ClusterCapacity.Json
