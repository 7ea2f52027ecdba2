import ClusterCapacity.Proofs.Json.Sound
import ClusterCapacity.Proofs.Json.Tokens
import ClusterCapacity.Proofs.Wire.Laws

/-!
# Readers over printed values

`Reads read value tokens` says that `read` takes `tokens` from the head of any list and gives
`value`.  Each way of reading that a format offers has a lemma that gives `Reads` for the tokens of
a printed value from `Reads` for its parts, which makes JSON a format that holds JSON values.
-/

namespace ClusterCapacity.Json

open Wire

/-! ### Objects that are printed -/

/-- A member as it is printed. -/
def Member.printed (member : String × Json) : Member := ⟨.ofText member.1, member.2.tokens⟩

theorem memberTokens_eq (members : List (String × Json)) :
    memberTokens members = membersFrom false (members.map Member.printed) := by
  induction members with
  | nil => rfl
  | cons member members ih => rw [memberTokens, ih, List.map_cons]; rfl

theorem tokens_obj (members : List (String × Json)) :
    (obj members).tokens = objectTokens (members.map Member.printed) := by
  cases members with
  | nil => rfl
  | cons member members => rw [tokens, memberTokens_eq, List.map_cons]; rfl

/-! ### Readers -/

/-- Whether a reader takes exactly the given tokens, whatever follows them. -/
def Reads {α : Type} (read : Reader α) (value : α) (tokens : List Token) : Prop :=
  ∀ rest, read (tokens ++ rest) = .ok (value, rest)

/-- Whether a reader takes the tokens of every printed value and gives the value back. -/
def Inverts {α : Type} (read : Reader α) (write : α → Json) : Prop :=
  ∀ value, Reads read value (write value).tokens

theorem Reads.map {α β : Type} {read : Reader α} {value : α} {tokens : List Token} (f : α → β)
    (h : Reads read value tokens) : Reads (f <$> read) (f value) tokens := by
  intro rest
  simp only [Functor.map, h rest, bind, Except.bind]

namespace Reader

variable {α σ : Type} {read : Reader α} {write : α → Json}

/-! ### Single values -/

theorem reads_int64 (value : Int64) : Reads Reader.int64 value (Json.int value.toInt).tokens := by
  intro rest
  have hfits := Decimal.fitsInt64_toInt value
  show int64 (.number (.ok (.ofInt value.toInt)) :: rest) = _
  simp only [int64, Numeral.value_ofInt hfits, ofFault, hfits, bind, Except.bind, ↓reduceIte,
    Int64.ofInt_toInt]

theorem string_ofText (expected text : String) (rest : List Token) :
    Reader.string expected (.string (.ofText text) :: rest) = .ok (text, rest) := by
  simp only [Reader.string, Quoted.text_ofText, ofFault, bind, Except.bind]

theorem inverts_text : Inverts Reader.text Json.str := by
  intro text rest
  exact string_ofText _ text rest

theorem reads_none (read : Reader α) : Reads (Reader.optional read) none Json.null.tokens := by
  intro rest
  rfl

theorem reads_some_int64 (value : Int64) :
    Reads (Reader.optional Reader.int64) (some value) (Json.int value.toInt).tokens := by
  intro rest
  have hread : int64 (.number (.ok (.ofInt value.toInt)) :: rest) = .ok (value, rest) :=
    reads_int64 value rest
  -- no number is `null`
  show Reader.optional int64 (.number (.ok (.ofInt value.toInt)) :: rest) = _
  simp only [Reader.optional, hread, bind, Except.bind]

/-! ### Lists -/

/-- The first token of a value closes no list. -/
theorem exists_tokens_eq_cons (value : Json) :
    ∃ token rest, value.tokens = token :: rest ∧ token ≠ .closeList := by
  match value with
  | .null | .bool _ | .int _ | .str _ => exact ⟨_, _, rfl, by simp⟩
  | .arr [] | .arr (_ :: _) => exact ⟨.openList, _, rfl, by simp⟩
  | .obj [] | .obj (_ :: _) => exact ⟨.openObject, _, rfl, by simp⟩

theorem nextItem_first (value : Json) (rest : List Token) :
    nextItem true (value.tokens ++ rest) = .ok (some (value.tokens ++ rest)) := by
  obtain ⟨token, others, heq, hclose⟩ := exists_tokens_eq_cons value
  rw [heq, List.cons_append]
  cases token <;> first
    | rfl
    | exact absurd rfl hclose

theorem nextItem_comma (value : Json) (rest : List Token) :
    nextItem false (.comma :: (value.tokens ++ rest)) = .ok (some (value.tokens ++ rest)) := by
  obtain ⟨token, others, heq, hclose⟩ := exists_tokens_eq_cons value
  rw [heq, List.cons_append]
  cases token <;> first
    | rfl
    | exact absurd rfl hclose

/-- One item is read, then the items after it. -/
theorem items_item {fuel : Nat} {first : Bool} {tokens item after last : List Token} {value : α}
    {values : List α} (hnext : nextItem first tokens = .ok (some (item ++ after)))
    (hitem : Reads read value item) (hrest : items read fuel false after = .ok (values, last)) :
    items read (fuel + 1) first tokens = .ok (value :: values, last) := by
  simp only [items, hnext, ofFault, bind, Except.bind, hitem after, hrest]

theorem length_itemTokens (items : List Json) : items.length < (itemTokens items).length := by
  induction items with
  | nil => exact Nat.zero_lt_one
  | cons item items ih =>
    rw [itemTokens, List.length_cons, List.length_cons, List.length_append]
    omega

/-- The items after the first one are read up to the closing bracket. -/
theorem items_itemTokens {values : List α} {written : List Json}
    (h : List.Forall₂ (fun value json => Reads read value json.tokens) values written)
    (rest : List Token) {fuel : Nat} (hfuel : written.length < fuel) :
    items read fuel false (itemTokens written ++ rest) = .ok (values, .closeList :: rest) := by
  induction h generalizing fuel with
  | nil =>
    obtain ⟨fuel, rfl⟩ := Nat.exists_eq_succ_of_ne_zero (Nat.ne_zero_of_lt hfuel)
    rfl
  | cons hitem _ ih =>
    obtain ⟨fuel, rfl⟩ := Nat.exists_eq_succ_of_ne_zero (Nat.ne_zero_of_lt hfuel)
    rw [itemTokens, List.cons_append, List.append_assoc]
    exact items_item (nextItem_comma _ _) hitem (ih (Nat.lt_of_succ_lt_succ hfuel))

/-- A list is read item by item. -/
theorem reads_list {values : List α} {written : List Json}
    (h : List.Forall₂ (fun value json => Reads read value json.tokens) values written) :
    Reads (Reader.list read) values (Json.arr written).tokens := by
  intro rest
  -- the first item has no comma in front of it
  cases h with
  | nil => rfl
  | @cons value json values written hitem hitems =>
    have hfuel : written.length
        < (json.tokens ++ (itemTokens written ++ rest)).length := by
      have hlength := length_itemTokens written
      rw [List.length_append, List.length_append]
      omega
    have hread := items_item (nextItem_first _ _) hitem (items_itemTokens hitems rest hfuel)
    rw [tokens, List.cons_append, List.append_assoc]
    simp only [Reader.list, hread, closeList, ofFault, bind, Except.bind]

theorem inverts_list (h : Inverts read write) :
    Inverts (Reader.list read) (fun values => .arr (values.map write)) := by
  intro values
  apply reads_list
  rw [List.forall₂_map_right_iff, List.forall₂_same]
  exact fun value _ => h value

/-! ### Objects -/

theorem memberName_of_text {name : Quoted} {text : String} (h : name.text = .ok text)
    (rest : List Token) : memberName (.string name :: rest) = .ok (text, rest) := by
  simp only [memberName, h, bind, Except.bind]

/-- The name of a member is taken, after a comma unless it is that of the first one. -/
theorem nextMember_of_text {name : Quoted} {text : String} (h : name.text = .ok text) (first : Bool)
    (rest : List Token) :
    nextMember first ((if first then [] else [.comma]) ++ .string name :: rest)
      = .ok (some (text, rest)) := by
  have hname : some <$> memberName (.string name :: rest) = .ok (some (text, rest)) := by
    rw [memberName_of_text h]
    rfl
  cases first <;> exact hname

theorem length_membersFrom (first : Bool) (members : List Member) :
    members.length < (membersFrom first members).length := by
  induction members generalizing first with
  | nil => exact Nat.zero_lt_one
  | cons member members ih =>
    have hlength := ih false
    rw [membersFrom, Member.tokens]
    simp only [List.length_cons, List.length_append]
    omega

/-- Members are read up to the closing brace. -/
theorem members_membersFrom {pairs : List (String × α)} {written : List Member}
    (h : List.Forall₂ (SpellsMember (Reads read)) pairs written) (first : Bool)
    (rest : List Token) {fuel : Nat} (hfuel : written.length < fuel) :
    members read fuel first (membersFrom first written ++ rest)
      = .ok (pairs, .closeObject :: rest) := by
  induction h generalizing fuel first with
  | nil =>
    obtain ⟨fuel, rfl⟩ := Nat.exists_eq_succ_of_ne_zero (Nat.ne_zero_of_lt hfuel)
    rfl
  | @cons pair member pairs written hmember _ ih =>
    obtain ⟨fuel, rfl⟩ := Nat.exists_eq_succ_of_ne_zero (Nat.ne_zero_of_lt hfuel)
    have hvalue := hmember.2 (membersFrom false written ++ rest)
    have hrest := ih false (Nat.lt_of_succ_lt_succ hfuel)
    rw [membersFrom, Member.tokens]
    simp only [List.cons_append, List.append_assoc, members, nextMember_of_text hmember.1,
      colon, ofFault, bind, Except.bind, hvalue, hrest]

/-- An object is read member by member. -/
theorem reads_object (expected : String) {pairs : List (String × α)} {tokens : List Token}
    (h : SpellsPairs (Reads read) pairs tokens) :
    Reads (Reader.entries expected read) pairs tokens := by
  obtain ⟨written, hwritten, rfl⟩ := h
  intro rest
  have hfuel : written.length < (membersFrom true written ++ rest).length := by
    have hlength := length_membersFrom true written
    rw [List.length_append]
    omega
  have hread := members_membersFrom hwritten true rest (Nat.lt_succ_of_lt hfuel)
  show Reader.entries expected read (.openObject :: (membersFrom true written ++ rest)) = _
  simp only [Reader.entries, hread, closeObject, ofFault, bind, Except.bind]

theorem reads_entries (expected : String) {pairs : List (String × α)}
    {written : List (String × Json)}
    (h : List.Forall₂ (ReadsMember (fun value json => Reads read value json.tokens)) pairs
      written) :
    Reads (Reader.entries expected read) pairs (Json.obj written).tokens := by
  refine reads_object expected ⟨written.map Member.printed, ?_, tokens_obj written⟩
  rw [List.forall₂_map_right_iff]
  exact h.imp fun _ _ ⟨hname, hvalue⟩ => ⟨hname ▸ Quoted.text_ofText _, hvalue⟩

/-! ### Choices -/

/-- A value is chosen by its name, if the name leads to it. -/
theorem reads_choice {choices : List (String × α)} {name : String} {value : α}
    (h : choices.lookup name = some value) :
    Reads (Reader.choice choices) value (Json.str name).tokens := by
  intro rest
  show choiceName choices (.string (.ofText name) :: rest) = _
  simp only [choiceName, string_ofText, bind, Except.bind, h]

/-! ### Records -/

variable {record : Record Reader σ α}

/-- A member that the draft lacks is read. -/
theorem namedFields_known {fuel : Nat} {name : String} {draft : σ} {field : Field Reader σ}
    {update : σ → σ} {member : Member} (hname : member.name.text = .ok name)
    (hfield : record.field? name = some field) (hnew : field.isGiven draft = false)
    (hread : Reads field.read update member.value) (first : Bool) (members : List Member)
    (rest : List Token) :
    namedFields record (fuel + 1) first draft (membersFrom first (member :: members) ++ rest)
      = namedFields record fuel false (update draft) (membersFrom false members ++ rest) := by
  have hvalue := hread (membersFrom false members ++ rest)
  rw [membersFrom, Member.tokens]
  simp only [List.cons_append, List.append_assoc, namedFields, nextMember_of_text hname, hfield,
    hnew, colon, ofFault, bind, Except.bind, hvalue, Bool.false_eq_true, ↓reduceIte]

/-- Printed members are read up to the closing brace. -/
theorem namedFields_printed {draft final : σ} {members : List (String × Json)}
    (h : Fills (fun _ read value json => Reads read value json.tokens) record draft members final)
    (first : Bool) (rest : List Token) {fuel : Nat} (hfuel : members.length < fuel) :
    namedFields record fuel first draft (membersFrom first (members.map Member.printed) ++ rest)
      = .ok (final, .closeObject :: rest) := by
  -- the induction follows the members that fill the draft
  induction h generalizing fuel first with
  | done draft =>
    obtain ⟨fuel, rfl⟩ := Nat.exists_eq_succ_of_ne_zero (Nat.ne_zero_of_lt hfuel)
    rfl
  | member hfield hnew hread hrest ih =>
    obtain ⟨fuel, rfl⟩ := Nat.exists_eq_succ_of_ne_zero (Nat.ne_zero_of_lt hfuel)
    rw [List.map_cons, namedFields_known (Quoted.text_ofText _) hfield hnew hread]
    exact ih false (Nat.lt_of_succ_lt_succ hfuel)

/-- An object is read as a record when its members fill the draft that the record is finished
from. -/
theorem record_objectTokens {final : σ} {members : List Member} {value : α}
    (h : ∀ {fuel : Nat} (rest : List Token), members.length < fuel →
      namedFields record fuel true record.blank (membersFrom true members ++ rest)
        = .ok (final, .closeObject :: rest))
    (hfinish : record.finish final = .ok value) :
    Reads (Reader.record record) value (objectTokens members) := by
  intro rest
  have hfuel : members.length < (membersFrom true members ++ rest).length := by
    have hlength := length_membersFrom true members
    rw [List.length_append]
    omega
  have hdraft := h rest (Nat.lt_succ_of_lt hfuel)
  show Reader.record record (.openObject :: (membersFrom true members ++ rest)) = _
  simp only [Reader.record, hdraft, finish, hfinish, closeObject, ofFault, bind, Except.bind]

/-- A printed record is read when its members fill the draft that it is finished from. -/
theorem reads_record {final : σ} {members : List (String × Json)} {value : α}
    (h : Fills (fun _ read value json => Reads read value json.tokens) record record.blank members
      final) (hfinish : record.finish final = .ok value) :
    Reads (Reader.record record) value (Json.obj members).tokens := by
  rw [tokens_obj]
  refine record_objectTokens (fun rest hfuel => ?_) hfinish
  rw [List.length_map] at hfuel
  exact namedFields_printed h true rest hfuel

end Reader

instance : LawfulFormat Reader where
  Reads read value json := Reads read value json.tokens
  map := Reads.map
  int64 := Reader.reads_int64
  text := Reader.inverts_text
  none := Reader.reads_none
  some_int64 := Reader.reads_some_int64
  list := Reader.reads_list
  entries expected _ := Reader.reads_entries expected
  choice := Reader.reads_choice
  record := Reader.reads_record

/-! ### Whole texts -/

/-- A reader that takes the tokens of a text decodes it. -/
theorem decode_of_scan {α : Type} {read : Reader α} {value : α} {tokens : List Token}
    {text : String} (hscan : Token.scan text.toList = tokens) (h : Reads read value tokens) :
    decode read text = .ok value := by
  have hread := h []
  rw [List.append_nil] at hread
  simp only [decode, hscan, hread, bind, Except.bind, List.isEmpty_nil, ↓reduceIte]

theorem decode_compact {α : Type} {read : Reader α} {value : α} {json : Json}
    (h : Reads read value json.tokens) : decode read json.compact = .ok value :=
  decode_of_scan (scan_compact json) h

end ClusterCapacity.Json
