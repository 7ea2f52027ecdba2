import ClusterCapacity.Proofs.Json.Canonical
import ClusterCapacity.Proofs.Json.Pretty

/-!
# Reading values of any kind

`parse` reads a text as the value it holds, with the members of every object in order.  Both texts
of a value are read as the sorted value (`parse_compact`, `parse_pretty`), as long as its numbers
are 64-bit integers (`Fits64`), because longer ones are read as floating point numbers.
-/

namespace ClusterCapacity.Json

open Wire

/-! ### The reader -/

namespace Reader

/-- The value of a token that opens no bracket.  A number that is not whole is refused, because
no value holds one. -/
def scalar (token : Token) : Except DecodeError Json := do
  match ← ofFault (found token) with
  | .null => .ok .null
  | .bool value => .ok (.bool value)
  | .integer value => .ok (.int value)
  | .string text => .ok (.str text)
  | found => .error (.unexpected found "a whole number")

/-- An object of the members in ascending order; of those of one name the last one counts. -/
def gathered (members : List (String × Json)) : Json :=
  .obj (members.foldl (fun done member => insertMember member.1 member.2 done) [])

/-- Reads a value of any kind in which at most `fuel` values stand around each other. -/
def value : Nat → Reader Json
  | 0, _ => .error (.json .endInValue)
  | _ + 1, [] => .error (.json .endInValue)
  | fuel + 1, .openList :: rest => (Json.arr <$> list (value fuel)) (.openList :: rest)
  | fuel + 1, .openObject :: rest =>
    (gathered <$> entries "a map" (value fuel)) (.openObject :: rest)
  | _ + 1, token :: rest => do .ok (← scalar token, rest)

end Reader

/-- The value that a text holds; it nests no deeper than it has tokens. -/
def parse (text : String) : Except DecodeError Json :=
  decode (fun tokens => Reader.value tokens.length tokens) text

/-! ### Values with 64-bit numbers -/

/-- Whether every number within a value is a 64-bit integer. -/
def Fits64 (value : Json) : Prop := ∀ number, Within (int number) value → Decimal.fitsInt64 number

theorem fits64_null : null.Fits64 := by
  rintro number ⟨⟩

theorem fits64_str (text : String) : (str text).Fits64 := by
  rintro number ⟨⟩

theorem fits64_int_iff {number : Int} : (int number).Fits64 ↔ Decimal.fitsInt64 number := by
  constructor
  · intro h
    exact h number .self
  · rintro h _ ⟨⟩
    exact h

theorem fits64_arr_iff {items : List Json} : (arr items).Fits64 ↔ ∀ item ∈ items, item.Fits64 := by
  constructor
  · intro h item hitem number hnumber
    exact h number (.item hitem hnumber)
  · intro h number hwithin
    cases hwithin with
    | item hitem hnumber => exact h _ hitem number hnumber

theorem fits64_obj_iff {members : List (String × Json)} :
    (obj members).Fits64 ↔ ∀ member ∈ members, member.2.Fits64 := by
  constructor
  · rintro h ⟨name, held⟩ hmember number hnumber
    exact h number (.member hmember hnumber)
  · intro h number hwithin
    cases hwithin with
    | member hmember hnumber => exact h _ hmember number hnumber

theorem Fits64.sorted {value : Json} (h : value.Fits64) : value.sorted.Fits64 := by
  intro number hnumber
  obtain ⟨source, hsource, heq⟩ := within_sorted hnumber
  cases source with
  | int other =>
    rw [Json.sorted, int.injEq] at heq
    rw [heq]
    exact h other hsource
  | _ => simp [Json.sorted] at heq

/-! ### The number of tokens -/

theorem length_tokens_pos (value : Json) : 0 < value.tokens.length := by
  obtain ⟨token, rest, heq, -⟩ := Reader.exists_tokens_eq_cons value
  rw [heq, List.length_cons]
  omega

theorem length_tokens_lt_itemTokens {item : Json} {items : List Json} (h : item ∈ items) :
    item.tokens.length < (itemTokens items).length := by
  induction items with
  | nil => exact absurd h List.not_mem_nil
  | cons first rest ih =>
    rw [itemTokens, List.length_cons, List.length_append]
    rcases List.mem_cons.mp h with rfl | hrest
    · omega
    · have hlt := ih hrest
      omega

theorem length_tokens_lt_memberTokens {member : String × Json} {members : List (String × Json)}
    (h : member ∈ members) : member.2.tokens.length < (memberTokens members).length := by
  induction members with
  | nil => exact absurd h List.not_mem_nil
  | cons first rest ih =>
    obtain ⟨name, value⟩ := first
    rw [memberTokens]
    simp only [List.length_cons, List.length_append]
    rcases List.mem_cons.mp h with rfl | hrest
    · show value.tokens.length < _
      omega
    · have hlt := ih hrest
      omega

/-- An item has fewer tokens than the array, in which every item follows a token. -/
theorem length_tokens_item {item : Json} {items : List Json} (h : item ∈ items) :
    item.tokens.length < (arr items).tokens.length := by
  have hlt := length_tokens_lt_itemTokens h
  cases items with
  | nil => exact absurd h List.not_mem_nil
  | cons first rest =>
    rw [itemTokens] at hlt
    rwa [tokens]

/-- A member has fewer tokens than the object. -/
theorem length_tokens_member {member : String × Json} {members : List (String × Json)}
    (h : member ∈ members) : member.2.tokens.length < (obj members).tokens.length := by
  have hlt := length_tokens_lt_memberTokens h
  match members with
  | [] => exact absurd h List.not_mem_nil
  | (name, value) :: rest =>
    rw [memberTokens] at hlt
    rwa [tokens]

/-! ### Reading a printed value -/

namespace Reader

theorem gathered_sorted (members : List (String × Json)) :
    gathered (members.map (fun member => (member.1, member.2.sorted))) = (obj members).sorted := by
  rw [gathered, List.foldl_map, sorted, sortedMembers_eq_foldl]

theorem value_arr (fuel : Nat) (items : List Json) (rest : List Token) :
    value (fuel + 1) ((arr items).tokens ++ rest)
      = (Json.arr <$> list (value fuel)) ((arr items).tokens ++ rest) := by
  cases items <;> rfl

theorem value_obj (fuel : Nat) (members : List (String × Json)) (rest : List Token) :
    value (fuel + 1) ((obj members).tokens ++ rest)
      = (gathered <$> entries "a map" (value fuel)) ((obj members).tokens ++ rest) := by
  cases members <;> rfl

/-- The tokens of a value are read as the sorted value. -/
theorem reads_value {json : Json} (hfits : json.Fits64) {fuel : Nat}
    (hfuel : json.tokens.length ≤ fuel) : Reads (value fuel) json.sorted json.tokens := by
  -- the values within an array or object have fewer tokens, so less fuel is enough for them
  induction fuel generalizing json with
  | zero => exact absurd (length_tokens_pos json) (by omega)
  | succ fuel ih =>
    intro rest
    match json with
    | null | bool true | bool false => rfl
    | int number =>
      have hvalue := Numeral.value_ofInt (fits64_int_iff.mp hfits)
      show value (fuel + 1) (.number (.ok (.ofInt number)) :: rest) = _
      simp only [value, scalar, found, hvalue, ofFault, bind, Except.bind, sorted]
    | str text =>
      show value (fuel + 1) (.string (.ofText text) :: rest) = _
      simp only [value, scalar, found, Quoted.text_ofText, ofFault, bind, Except.bind, sorted]
    | arr items =>
      have hitems : List.Forall₂ (fun value json => Reads (Reader.value fuel) value json.tokens)
          (items.map sorted) items := by
        rw [List.forall₂_map_left_iff, List.forall₂_same]
        intro item hitem
        have hlength := length_tokens_item hitem
        exact ih (fits64_arr_iff.mp hfits item hitem) (by omega)
      rw [value_arr, sorted, sortedItems_eq_map]
      exact (reads_list hitems).map Json.arr rest
    | obj members =>
      have hmembers : List.Forall₂
          (ReadsMember (fun value json => Reads (Reader.value fuel) value json.tokens))
          (members.map (fun member => (member.1, member.2.sorted))) members := by
        rw [List.forall₂_map_left_iff, List.forall₂_same]
        intro member hmember
        have hlength := length_tokens_member hmember
        exact ⟨rfl, ih (fits64_obj_iff.mp hfits member hmember) (by omega)⟩
      rw [value_obj, ← gathered_sorted]
      exact (reads_entries "a map" hmembers).map gathered rest

theorem reads_parse {json : Json} (h : json.Fits64) :
    Reads (fun tokens => value tokens.length tokens) json.sorted json.tokens := by
  intro rest
  exact reads_value h (by rw [List.length_append]; omega) rest

end Reader

/-- The compact text of a value holds the sorted value. -/
theorem parse_compact {json : Json} (h : json.Fits64) : parse json.compact = .ok json.sorted :=
  decode_compact (Reader.reads_parse h)

/-- The lines of a value hold the sorted value. -/
theorem parse_pretty {json : Json} (h : json.Fits64) : parse json.pretty = .ok json.sorted :=
  decode_pretty (Reader.reads_parse h)

end ClusterCapacity.Json
