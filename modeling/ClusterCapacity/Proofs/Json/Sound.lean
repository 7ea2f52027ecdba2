import ClusterCapacity.Json.Reader
import ClusterCapacity.Proofs.Json.Grammar
import Mathlib.Data.List.Forall2

/-!
# What readers take

`Sound read spells` says that whatever `read` takes from the head of a list of tokens spells the
value it gives.  Each way of reading has a lemma that gives `Sound` from `Sound` for its parts.  A
record that was read comes from an object of which the members fill its draft (`Filled`), or from a
list with an item for each of its first members (`Placed`).
-/

namespace ClusterCapacity.Json

open Wire

/-- Whether what a reader takes spells what it gives. -/
structure Sound {α : Type} (read : Reader α) (spells : α → List Token → Prop) : Prop where
  exists_taken {tokens : List Token} {value : α} {rest : List Token}
    (h : read tokens = .ok (value, rest)) : ∃ taken, tokens = taken ++ rest ∧ spells value taken

/-- Whether a reader takes tokens as a value where something follows. -/
def Yields {α : Type} (read : Reader α) (value : α) (taken : List Token) : Prop :=
  ∃ rest, read (taken ++ rest) = .ok (value, rest)

/-- Whether tokens are those of an integer of 64 bits. -/
def SpellsInt64 (value : Int64) (tokens : List Token) : Prop :=
  ∃ numeral : Numeral, numeral.value = .ok (.integer value.toInt) ∧
    tokens = [.number (.ok numeral)]

/-- Whether tokens are those of a text. -/
def SpellsText (text : String) (tokens : List Token) : Prop :=
  ∃ string : Quoted, string.text = .ok text ∧ tokens = [.string string]

/-- Whether tokens are a list of items that spell the values. -/
def SpellsList {α : Type} (spells : α → List Token → Prop) (values : List α)
    (tokens : List Token) : Prop :=
  ∃ items, List.Forall₂ spells values items ∧ tokens = listTokens items

/-- Whether a member has the name of a pair and spells its value. -/
def SpellsMember {α : Type} (spells : α → List Token → Prop) (pair : String × α)
    (member : Member) : Prop :=
  member.name.text = .ok pair.1 ∧ spells pair.2 member.value

/-- Whether tokens are an object of members that spell the pairs. -/
def SpellsPairs {α : Type} (spells : α → List Token → Prop) (pairs : List (String × α))
    (tokens : List Token) : Prop :=
  ∃ members, List.Forall₂ (SpellsMember spells) pairs members ∧ tokens = objectTokens members

section

variable {α β : Type} {read : Reader α} {spells : α → List Token → Prop}

theorem Sound.yields (h : Sound read spells) : Sound read (Yields read) := by
  refine ⟨fun {tokens value rest} hread => ?_⟩
  obtain ⟨taken, rfl, -⟩ := h.exists_taken hread
  exact ⟨taken, rfl, rest, hread⟩

theorem Sound.spells_of_yields {value : α} {taken : List Token} (h : Sound read spells)
    (hyields : Yields read value taken) : spells value taken := by
  obtain ⟨rest, hread⟩ := hyields
  obtain ⟨other, heq, hspells⟩ := h.exists_taken hread
  rw [List.append_cancel_right heq]
  exact hspells

theorem Yields.of_map {f : α → β} {value : β} {taken : List Token}
    (h : Yields (f <$> read) value taken) : ∃ x, Yields read x taken ∧ value = f x := by
  obtain ⟨rest, hread⟩ := h
  obtain ⟨⟨x, after⟩, hread, ⟨⟩⟩ := bind_eq_ok.mp hread
  exact ⟨x, ⟨rest, hread⟩, rfl⟩

theorem Sound.map (f : α → β) (h : Sound read spells) :
    Sound (f <$> read) (fun value tokens => ∃ x, spells x tokens ∧ value = f x) := by
  refine ⟨fun {tokens value rest} hread => ?_⟩
  obtain ⟨⟨x, after⟩, hread, ⟨⟩⟩ := bind_eq_ok.mp hread
  obtain ⟨taken, rfl, hspells⟩ := h.exists_taken hread
  exact ⟨taken, rfl, x, hspells, rfl⟩

end

namespace Reader

theorem eq_ok_of_ofFault {α : Type} {x : Except Fault α} {a : α} (h : ofFault x = .ok a) :
    x = .ok a := by
  cases x with
  | ok b =>
    cases h
    rfl
  | error fault => nomatch h

/-! ### Single values -/

theorem sound_int64 : Sound Reader.int64 SpellsInt64 := by
  refine ⟨fun {tokens value rest} h => ?_⟩
  unfold int64 at h
  split at h
  case h_2 numeral after =>
    obtain ⟨number, hnumber, h⟩ := bind_eq_ok.mp h
    split at h
    case h_1 number =>
      split at h
      case isTrue hfits =>
        cases h
        refine ⟨[.number (.ok numeral)], rfl, numeral, ?_, rfl⟩
        rw [eq_ok_of_ofFault hnumber, Decimal.toInt_ofInt_of_fitsInt64 hfits]
      case isFalse => nomatch h
    case h_2 => nomatch h
  all_goals nomatch h

theorem sound_text : Sound Reader.text SpellsText := by
  refine ⟨fun {tokens value rest} h => ?_⟩
  unfold Reader.text Reader.string at h
  split at h
  case h_2 string after =>
    obtain ⟨text, htext, ⟨⟩⟩ := bind_eq_ok.mp h
    exact ⟨[.string string], rfl, string, eq_ok_of_ofFault htext, rfl⟩
  all_goals nomatch h

/-! ### Lists -/

variable {α σ : Type} {read : Reader α} {spells : α → List Token → Prop} {first : Bool}
  {tokens after rest : List Token}

/-- An item that is not the first one stands after a comma. -/
theorem eq_of_nextItem (h : nextItem first tokens = .ok (some after)) :
    tokens = (if first then [] else [.comma]) ++ after := by
  unfold nextItem at h
  split at h
  · nomatch h
  · nomatch h
  · cases first with
    | true =>
      cases h
      rfl
    | false =>
      simp only [Bool.false_eq_true, ↓reduceIte] at h
      split at h <;> cases h
      rfl

theorem exists_of_nextItem_none (h : nextItem first tokens = .ok none) :
    ∃ last, tokens = .closeList :: last := by
  unfold nextItem at h
  split at h
  case h_1 => nomatch h
  case h_2 token last => exact ⟨last, rfl⟩
  case h_3 =>
    split at h
    · nomatch h
    · split at h <;> nomatch h

theorem eq_of_closeList (h : closeList tokens = .ok rest) : tokens = .closeList :: rest := by
  unfold closeList at h
  split at h <;> cases h
  rfl

/-- Items that were read spell the values. -/
theorem exists_of_items (hsound : Sound read spells) {fuel : Nat} {values : List α}
    (h : items read fuel first tokens = .ok (values, .closeList :: rest)) :
    ∃ written, List.Forall₂ spells values written ∧ tokens = itemsFrom first written ++ rest := by
  induction fuel generalizing first tokens values with
  | zero => nomatch h
  | succ fuel ih =>
    obtain ⟨next, hnext, h⟩ := bind_eq_ok.mp h
    cases next with
    | none =>
      cases h
      exact ⟨[], .nil, rfl⟩
    | some after =>
      obtain ⟨⟨value, after⟩, hread, h⟩ := bind_eq_ok.mp h
      obtain ⟨⟨values, last⟩, hrest, ⟨⟩⟩ := bind_eq_ok.mp h
      obtain ⟨item, rfl, hitem⟩ := hsound.exists_taken hread
      obtain ⟨written, hwritten, rfl⟩ := ih hrest
      refine ⟨item :: written, .cons hitem hwritten, ?_⟩
      rw [eq_of_nextItem (eq_ok_of_ofFault hnext), itemsFrom, List.append_assoc,
        List.append_assoc]

theorem sound_list (hsound : Sound read spells) :
    Sound (Reader.list read) (SpellsList spells) := by
  refine ⟨fun {tokens values rest} h => ?_⟩
  unfold Reader.list at h
  split at h
  case h_2 tokens =>
    obtain ⟨⟨values, last⟩, hitems, h⟩ := bind_eq_ok.mp h
    obtain ⟨after, hclose, ⟨⟩⟩ := bind_eq_ok.mp h
    rw [eq_of_closeList (eq_ok_of_ofFault hclose)] at hitems
    obtain ⟨written, hwritten, rfl⟩ := exists_of_items hsound hitems
    exact ⟨listTokens written, rfl, written, hwritten, rfl⟩
  all_goals nomatch h

/-! ### Objects -/

theorem exists_of_memberName {name : String} (h : memberName tokens = .ok (name, rest)) :
    ∃ string : Quoted, string.text = .ok name ∧ tokens = .string string :: rest := by
  unfold memberName at h
  split at h
  case h_1 string after =>
    obtain ⟨text, htext, ⟨⟩⟩ := bind_eq_ok.mp h
    exact ⟨string, htext, rfl⟩
  case h_2 => nomatch h

/-- A member that is not the first one stands after a comma. -/
theorem exists_of_nextMember {name : String}
    (h : nextMember first tokens = .ok (some (name, after))) :
    ∃ string : Quoted, string.text = .ok name ∧
      tokens = (if first then [] else [.comma]) ++ .string string :: after := by
  have exists_of_map {tokens : List Token}
      (h : some <$> memberName tokens = .ok (some (name, after))) :
      ∃ string : Quoted, string.text = .ok name ∧ tokens = .string string :: after := by
    cases hname : memberName tokens with
    | ok found =>
      rw [hname] at h
      cases h
      exact exists_of_memberName hname
    | error fault =>
      rw [hname] at h
      nomatch h
  unfold nextMember at h
  split at h
  · nomatch h
  · nomatch h
  · cases first with
    | true => exact exists_of_map h
    | false =>
      simp only [Bool.false_eq_true, ↓reduceIte] at h
      split at h
      case h_3 =>
        obtain ⟨string, htext, rfl⟩ := exists_of_map h
        exact ⟨string, htext, rfl⟩
      all_goals nomatch h

theorem eq_of_colon (h : colon tokens = .ok rest) : tokens = .colon :: rest := by
  unfold colon at h
  split at h <;> cases h
  rfl

theorem eq_of_closeObject (h : closeObject tokens = .ok rest) :
    tokens = .closeObject :: rest := by
  unfold closeObject at h
  split at h <;> cases h
  rfl

/-- Members that were read spell the pairs. -/
theorem exists_of_members (hsound : Sound read spells) {fuel : Nat} {pairs : List (String × α)}
    (h : members read fuel first tokens = .ok (pairs, .closeObject :: rest)) :
    ∃ written, List.Forall₂ (SpellsMember spells) pairs written ∧
      tokens = membersFrom first written ++ rest := by
  induction fuel generalizing first tokens pairs with
  | zero => nomatch h
  | succ fuel ih =>
    obtain ⟨next, hnext, h⟩ := bind_eq_ok.mp h
    cases next with
    | none =>
      cases h
      exact ⟨[], .nil, rfl⟩
    | some next =>
      obtain ⟨name, after⟩ := next
      obtain ⟨string, hname, rfl⟩ := exists_of_nextMember (eq_ok_of_ofFault hnext)
      obtain ⟨between, hcolon, htaking⟩ := bind_eq_ok.mp h
      obtain rfl := eq_of_colon (eq_ok_of_ofFault hcolon)
      obtain ⟨⟨value, last⟩, hread, hpairs⟩ := bind_eq_ok.mp htaking
      obtain ⟨⟨pairs, last⟩, hrest, ⟨⟩⟩ := bind_eq_ok.mp hpairs
      obtain ⟨taken, rfl, htaken⟩ := hsound.exists_taken hread
      obtain ⟨written, hwritten, rfl⟩ := ih hrest
      refine ⟨⟨string, taken⟩ :: written, .cons ⟨hname, htaken⟩ hwritten, ?_⟩
      simp only [membersFrom, Member.tokens, List.append_assoc, List.cons_append]

theorem sound_entries (expected : String) (hsound : Sound read spells) :
    Sound (Reader.entries expected read) (SpellsPairs spells) := by
  refine ⟨fun {tokens pairs rest} h => ?_⟩
  unfold Reader.entries at h
  split at h
  case h_2 tokens =>
    obtain ⟨⟨pairs, last⟩, hmembers, h⟩ := bind_eq_ok.mp h
    obtain ⟨after, hclose, ⟨⟩⟩ := bind_eq_ok.mp h
    rw [eq_of_closeObject (eq_ok_of_ofFault hclose)] at hmembers
    obtain ⟨written, hwritten, rfl⟩ := exists_of_members hsound hmembers
    exact ⟨objectTokens written, rfl, written, hwritten, rfl⟩
  all_goals nomatch h

end Reader

/-! ### Records -/

/-- Whether the members of an object turn one draft of a record into another: a member of a known
name that the draft lacks is read, and one of another name may hold any value. -/
inductive Filled {σ α : Type} (record : Record Reader σ α) : σ → List Member → σ → Prop where
  | done (draft : σ) : Filled record draft [] draft
  | known {draft final : σ} {member : Member} {members : List Member} {name : String}
    {field : Field Reader σ} {update : σ → σ} (hname : member.name.text = .ok name)
    (hfield : record.field? name = some field) (hnew : field.isGiven draft = false)
    (hread : Yields field.read update member.value)
    (hrest : Filled record (update draft) members final) :
    Filled record draft (member :: members) final
  | unknown {draft final : σ} {member : Member} {members : List Member} {name : String}
    (hname : member.name.text = .ok name) (hfield : record.field? name = none)
    (hvalue : IsValue member.value) (hrest : Filled record draft members final) :
    Filled record draft (member :: members) final

/-- Whether the items of a list turn one draft of a record into another: each is read as the member
at its place, and the members after the last item may be left out. -/
inductive Placed {σ : Type} : List (Field Reader σ) → σ → List (List Token) → σ → Prop where
  | absent {fields : List (Field Reader σ)} {draft : σ}
    (h : ∀ field ∈ fields, field.mayBeAbsent = true) : Placed fields draft [] draft
  | item {field : Field Reader σ} {fields : List (Field Reader σ)} {draft final : σ}
    {item : List Token} {items : List (List Token)} {update : σ → σ}
    (hread : Yields field.read update item) (hrest : Placed fields (update draft) items final) :
    Placed (field :: fields) draft (item :: items) final

/-- Whether tokens are a record in one of its two notations. -/
def SpellsRecord {σ α : Type} (record : Record Reader σ α) (value : α) (tokens : List Token) :
    Prop :=
  ∃ final, record.finish final = .ok value ∧
    ((∃ members, Filled record record.blank members final ∧ tokens = objectTokens members) ∨
      ∃ items, Placed record.fields record.blank items final ∧ tokens = listTokens items)

namespace Reader

variable {σ α : Type} {record : Record Reader σ α} {tokens rest : List Token}

/-- Members that were read fill the draft. -/
theorem exists_of_namedFields
    (hsound : ∀ field ∈ record.fields, Sound field.read (Yields field.read))
    {fuel : Nat} {first : Bool} {draft final : σ}
    (h : namedFields record fuel first draft tokens = .ok (final, .closeObject :: rest)) :
    ∃ members, Filled record draft members final ∧ tokens = membersFrom first members ++ rest := by
  induction fuel generalizing first draft tokens with
  | zero => nomatch h
  | succ fuel ih =>
    obtain ⟨next, hnext, h⟩ := bind_eq_ok.mp h
    cases next with
    | none =>
      cases h
      exact ⟨[], .done _, rfl⟩
    | some next =>
      obtain ⟨name, after⟩ := next
      obtain ⟨string, hname, rfl⟩ := exists_of_nextMember (eq_ok_of_ofFault hnext)
      dsimp only at h
      split at h
      case h_1 hfield =>
        obtain ⟨last, hpass, hrest⟩ := bind_eq_ok.mp h
        obtain ⟨between, hcolon, hskip⟩ := bind_eq_ok.mp (eq_ok_of_ofFault hpass)
        obtain rfl := eq_of_colon hcolon
        obtain ⟨value, rfl, hvalue⟩ := exists_isValue_of_skip hskip
        obtain ⟨members, hmembers, rfl⟩ := ih hrest
        refine ⟨⟨string, value⟩ :: members, .unknown hname hfield hvalue hmembers, ?_⟩
        simp only [membersFrom, Member.tokens, List.append_assoc, List.cons_append]
      case h_2 field hfield =>
        split at h
        · nomatch h
        · rename_i hnew
          obtain ⟨between, hcolon, htaking⟩ := bind_eq_ok.mp h
          obtain rfl := eq_of_colon (eq_ok_of_ofFault hcolon)
          obtain ⟨⟨update, last⟩, hread, hrest⟩ := bind_eq_ok.mp htaking
          have hmem := List.mem_of_find?_eq_some hfield
          obtain ⟨value, rfl, hvalue⟩ := (hsound field hmem).exists_taken hread
          obtain ⟨members, hmembers, rfl⟩ := ih hrest
          refine ⟨⟨string, value⟩ :: members,
            .known hname hfield (Bool.eq_false_iff.mpr hnew) hvalue hmembers, ?_⟩
          simp only [membersFrom, Member.tokens, List.append_assoc, List.cons_append]

theorem eq_ok_of_finish {draft : σ} {value : α} (h : finish record draft = .ok value) :
    record.finish draft = .ok value := by
  unfold finish at h
  split at h <;> cases h
  assumption

/-- At the end of a list nothing is read. -/
theorem placedFields_closeList {title : String} {fields : List (Field Reader σ)} {index : Nat}
    {draft final : σ} {last : List Token}
    (h : placedFields title fields index draft (.closeList :: last) = .ok (final, rest)) :
    (∀ field ∈ fields, field.mayBeAbsent = true) ∧ final = draft ∧ rest = .closeList :: last := by
  induction fields with
  | nil =>
    cases h
    exact ⟨nofun, rfl, rfl⟩
  | cons field fields ih =>
    change (if field.mayBeAbsent then placedFields title fields index draft (.closeList :: last)
      else _) = _ at h
    split at h
    case isTrue habsent =>
      obtain ⟨hfields, hfinal, hrest⟩ := ih h
      exact ⟨List.forall_mem_cons.mpr ⟨habsent, hfields⟩, hfinal, hrest⟩
    case isFalse => nomatch h

/-- Items that were read are placed in the draft. -/
theorem exists_of_placedFields {title : String} {fields : List (Field Reader σ)}
    (hsound : ∀ field ∈ fields, Sound field.read (Yields field.read)) {index : Nat}
    {draft final : σ}
    (h : placedFields title fields index draft tokens = .ok (final, .closeList :: rest)) :
    ∃ items, Placed fields draft items final ∧ tokens = itemsFrom (index = 0) items ++ rest := by
  induction fields generalizing index draft tokens with
  | nil =>
    cases h
    exact ⟨[], .absent nofun, rfl⟩
  | cons field fields ih =>
    rw [List.forall_mem_cons] at hsound
    obtain ⟨next, hnext, htaking⟩ := bind_eq_ok.mp h
    cases next with
    | none =>
      obtain ⟨last, rfl⟩ := exists_of_nextItem_none (eq_ok_of_ofFault hnext)
      obtain ⟨habsent, rfl, ⟨⟩⟩ := placedFields_closeList h
      exact ⟨[], .absent habsent, rfl⟩
    | some after =>
      obtain ⟨⟨update, last⟩, hread, hrest⟩ := bind_eq_ok.mp htaking
      obtain ⟨item, rfl, hitem⟩ := hsound.1.exists_taken hread
      obtain ⟨items, hitems, rfl⟩ := ih hsound.2 hrest
      refine ⟨item :: items, .item hitem hitems, ?_⟩
      rw [eq_of_nextItem (eq_ok_of_ofFault hnext), itemsFrom, List.append_assoc,
        List.append_assoc]
      rfl

theorem sound_record (hsound : ∀ field ∈ record.fields, Sound field.read (Yields field.read)) :
    Sound (Reader.record record) (SpellsRecord record) := by
  refine ⟨fun {tokens value rest} h => ?_⟩
  unfold Reader.record at h
  split at h
  case h_2 tokens =>
    obtain ⟨⟨final, last⟩, hfields, h⟩ := bind_eq_ok.mp h
    obtain ⟨value, hfinish, h⟩ := bind_eq_ok.mp h
    obtain ⟨after, hclose, ⟨⟩⟩ := bind_eq_ok.mp h
    rw [eq_of_closeObject (eq_ok_of_ofFault hclose)] at hfields
    obtain ⟨members, hmembers, rfl⟩ := exists_of_namedFields hsound hfields
    exact ⟨objectTokens members, rfl, final, eq_ok_of_finish hfinish, .inl ⟨members, hmembers, rfl⟩⟩
  case h_3 tokens =>
    obtain ⟨⟨final, last⟩, hfields, h⟩ := bind_eq_ok.mp h
    obtain ⟨value, hfinish, h⟩ := bind_eq_ok.mp h
    obtain ⟨after, hclose, ⟨⟩⟩ := bind_eq_ok.mp h
    rw [eq_of_closeList (eq_ok_of_ofFault hclose)] at hfields
    obtain ⟨items, hitems, rfl⟩ := exists_of_placedFields hsound hfields
    exact ⟨listTokens items, rfl, final, eq_ok_of_finish hfinish, .inr ⟨items, hitems, rfl⟩⟩
  all_goals nomatch h

end Reader

/-! ### Tokens without a fault -/

/-- Whether a reader takes tokens without a fault only. -/
def Careful {α : Type} (read : Reader α) : Prop := Sound read (fun _ tokens => Flawless tokens)

section

variable {α β : Type} {read : Reader α}

theorem Sound.careful {spells : α → List Token → Prop} (h : Sound read spells)
    (hspells : ∀ {value tokens}, spells value tokens → Flawless tokens) : Careful read := by
  refine ⟨fun {tokens value rest} hread => ?_⟩
  obtain ⟨taken, rfl, htaken⟩ := h.exists_taken hread
  exact ⟨taken, rfl, hspells htaken⟩

theorem Careful.map (f : α → β) (h : Careful read) : Careful (f <$> read) :=
  (Sound.map f h).careful fun ⟨_, htokens, _⟩ => htokens

theorem forall_of_forall₂ {R : α → β → Prop} {P : β → Prop} {xs : List α} {ys : List β}
    (h : List.Forall₂ R xs ys) (himp : ∀ {x y}, R x y → P y) : ∀ y ∈ ys, P y := by
  induction h with
  | nil => nofun
  | cons hxy _ ih => exact List.forall_mem_cons.mpr ⟨himp hxy, ih⟩

end

namespace Reader

variable {α σ : Type} {read : Reader α} {record : Record Reader σ α}

theorem careful_int64 : Careful Reader.int64 :=
  sound_int64.careful fun ⟨numeral, _, htokens⟩ =>
    htokens ▸ flawless_singleton ⟨numeral, rfl⟩

theorem careful_text : Careful Reader.text :=
  sound_text.careful fun ⟨_, htext, htokens⟩ =>
    htokens ▸ flawless_singleton (Quoted.fault_of_text htext)

theorem careful_list (h : Careful read) : Careful (Reader.list read) :=
  (sound_list h).careful fun ⟨_, hitems, htokens⟩ =>
    htokens ▸ flawless_listTokens (forall_of_forall₂ hitems id)

theorem careful_entries (expected : String) (h : Careful read) :
    Careful (Reader.entries expected read) :=
  (sound_entries expected h).careful fun ⟨_, hmembers, htokens⟩ =>
    htokens ▸ flawless_objectTokens (forall_of_forall₂ hmembers fun ⟨hname, hvalue⟩ =>
      ⟨Quoted.fault_of_text hname, hvalue⟩)

theorem flawless_of_filled (h : ∀ field ∈ record.fields, Careful field.read) {draft final : σ}
    {members : List Member} (hfilled : Filled record draft members final) :
    ∀ member ∈ members, member.name.fault = none ∧ Flawless member.value := by
  induction hfilled with
  | done => nofun
  | known hname hfield _ hread _ ih =>
    have hvalue := (h _ (List.mem_of_find?_eq_some hfield)).spells_of_yields hread
    exact List.forall_mem_cons.mpr ⟨⟨Quoted.fault_of_text hname, hvalue⟩, ih⟩
  | unknown hname _ hvalue _ ih =>
    exact List.forall_mem_cons.mpr ⟨⟨Quoted.fault_of_text hname, hvalue.flawless⟩, ih⟩

theorem flawless_of_placed {fields : List (Field Reader σ)}
    (h : ∀ field ∈ fields, Careful field.read) {draft final : σ} {items : List (List Token)}
    (hplaced : Placed fields draft items final) : ∀ item ∈ items, Flawless item := by
  induction hplaced with
  | absent => nofun
  | item hread _ ih =>
    rw [List.forall_mem_cons] at h
    exact List.forall_mem_cons.mpr ⟨h.1.spells_of_yields hread, ih h.2⟩

theorem careful_record (h : ∀ field ∈ record.fields, Careful field.read) :
    Careful (Reader.record record) := by
  refine (sound_record fun field hfield => (h field hfield).yields).careful ?_
  rintro value tokens ⟨final, -, ⟨members, hmembers, rfl⟩ | ⟨items, hitems, rfl⟩⟩
  · exact flawless_objectTokens (flawless_of_filled h hmembers)
  · exact flawless_listTokens (flawless_of_placed h hitems)

end Reader

/-! ### Whole texts -/

theorem spells_of_decode {α : Type} {read : Reader α} {spells : α → List Token → Prop}
    {text : String} {value : α} (hsound : Sound read spells) (h : decode read text = .ok value) :
    spells value (Token.scan text.toList) := by
  obtain ⟨⟨value, rest⟩, hread, h⟩ := bind_eq_ok.mp h
  obtain ⟨taken, htokens, htaken⟩ := hsound.exists_taken hread
  dsimp only at h
  split at h
  case isTrue hempty =>
    cases h
    rw [htokens, List.isEmpty_iff.mp hempty, List.append_nil]
    exact htaken
  case isFalse => nomatch h

/-- A text that was decoded is written with tokens that spell the value. -/
theorem exists_spelling_of_decode {α : Type} {read : Reader α} {spells : α → List Token → Prop}
    {text : String} {value : α} (hsound : Sound read spells) (hcareful : Careful read)
    (h : decode read text = .ok value) : ∃ tokens, spells value tokens ∧
      Spelling tokens text.toList :=
  ⟨_, spells_of_decode hsound h, Token.spelling_scan (spells_of_decode hcareful h)⟩

/-- Mapping what is read maps what is decoded. -/
theorem decode_map {α β : Type} (f : α → β) (read : Reader α) (text : String) :
    decode (f <$> read) text = (decode read text).map f := by
  have hread : (f <$> read) (Token.scan text.toList)
      = read (Token.scan text.toList) >>= fun found => .ok (f found.1, found.2) := rfl
  rw [decode, decode, hread]
  cases read (Token.scan text.toList) with
  | error error => rfl
  | ok found =>
    obtain ⟨value, rest⟩ := found
    cases rest <;> rfl

end ClusterCapacity.Json
