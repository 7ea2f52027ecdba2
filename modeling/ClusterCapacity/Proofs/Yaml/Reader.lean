import ClusterCapacity.Proofs.Wire.Laws
import ClusterCapacity.Proofs.Yaml.Node
import ClusterCapacity.Yaml.Reader

/-!
# Reading JSON as YAML

The node of a JSON value has no aliases, so reading it neither asks the document nor counts, and
YAML is a format that holds JSON values, too.  Together with the scan of the compact text this gives
what is decoded from it (`decode_compact`).
-/

namespace ClusterCapacity.Yaml

open Wire

/-! ### Integers -/

namespace Integer

theorem digit?_of_isDigit {c : Char} (h : c.isDigit = true) :
    digit? 10 c = some (c.toNat - '0'.toNat) := by
  simp only [Char.isDigit, Bool.and_eq_true, decide_eq_true_eq] at h
  have hhex : hexDigit? c = some (c.toNat - '0'.toNat) := if_pos h
  have hsmall : c.toNat - '0'.toNat < 10 := by
    have hle : c.toNat ≤ '9'.toNat := UInt32.le_iff_toNat_le.mp h.2
    have hnine : '9'.toNat = 57 := rfl
    have hzero : '0'.toNat = 48 := rfl
    omega
  rw [digit?, hhex]
  exact if_pos hsmall

theorem digits?_of_isDigit {digits : List Char} (hne : digits ≠ [])
    (h : ∀ c ∈ digits, c.isDigit = true) :
    digits? 10 digits = some (Nat.ofDigitChars 10 digits 0) := by
  have hfold (value : Nat) :
      digits.foldlM (fun value c => (digit? 10 c).map (10 * value + ·)) value
        = some (Nat.ofDigitChars 10 digits value) := by
    clear hne
    induction digits generalizing value with
    | nil => rfl
    | cons c digits ih =>
      obtain ⟨hc, hrest⟩ := List.forall_mem_cons.mp h
      rw [List.foldlM_cons, digit?_of_isDigit hc]
      exact ih hrest _
  rw [digits?, List.isEmpty_eq_false_iff.mpr hne]
  exact hfold 0

/-- Digits without a zero in front have no base in front either. -/
theorem magnitude?_toDigits (value : Nat) : magnitude? (Nat.toDigits 10 value) = some value := by
  have hdigits : digits? 10 (Nat.toDigits 10 value) = some value := by
    rw [digits?_of_isDigit Nat.toDigits_ne_nil (fun _ => Json.Numeral.isDigit_toDigits),
      Nat.ofDigitChars_ten_toDigits]
  rcases Nat.eq_zero_or_pos value with rfl | hpos
  · exact hdigits
  · have hhead := Json.Numeral.head?_toDigits_ne_zero hpos
    unfold magnitude?
    split
    case h_5 => exact hdigits
    all_goals
      rename_i heq
      rw [heq] at hhead
      exact absurd rfl hhead

/-- A printed integer is read as itself. -/
theorem ofText?_decimal (value : Int) : ofText? (Json.decimal value) = some value := by
  rw [Json.Numeral.decimal_eq]
  split
  · rename_i hnegative
    have habs : -(value.natAbs : Int) = value := by omega
    rw [ofText?, magnitude?_toDigits]
    exact congrArg some habs
  · rename_i hnegative
    have habs : Int.ofNat value.natAbs = value := Int.natAbs_of_nonneg (Int.not_lt.mp hnegative)
    have hdigit (c : Char) (rest : List Char) (h : Nat.toDigits 10 value.natAbs = c :: rest) :
        c.isDigit = true :=
      Json.Numeral.isDigit_toDigits (h ▸ List.mem_cons_self ..)
    unfold ofText?
    split
    · rename_i heq
      exact absurd (hdigit _ _ heq) (by decide)
    · rename_i heq
      exact absurd (hdigit _ _ heq) (by decide)
    · rw [magnitude?_toDigits, Option.map_some, habs]

end Integer

/-! ### Readers -/

/-- Whether a reader gives the value at the node, whatever the document. -/
def Reads {α : Type} (read : Reader α) (value : α) (node : Node) : Prop := read node = pure value

namespace Reader

variable {α σ : Type} {read : Reader α}

theorem reads_int64 (value : Int64) : Reads int64 value (Json.int value.toInt).yamlNode := by
  have hfits := Decimal.fitsInt64_toInt value
  show int64 (.scalar .plain none (String.ofList (Json.decimal value.toInt))) = _
  simp only [int64, resolve, pure_bind, mayBeInteger, decide_true, Bool.true_or, ↓reduceIte,
    String.toList_ofList, Integer.ofText?_decimal, hfits, Int64.ofInt_toInt]

theorem reads_text (text : String) : Reads Reader.text text (Json.str text).yamlNode := by
  show Reader.text (.scalar .doubleQuoted none text) = _
  simp only [Reader.text, resolve, pure_bind]

theorem reads_none (read : Reader α) : Reads (optional read) none Json.null.yamlNode := by
  show optional read (.scalar .plain none "null") = _
  simp [optional, resolve, isNone?, isNull]

/-- No number is the mark for none, because the mark is no number. -/
theorem isNone?_decimal (value : Int) :
    isNone? (.scalar .plain none (String.ofList (Json.decimal value))) = some false := by
  have hmark : ∀ mark ∈ ["", "~", "null", "Null", "NULL"], Integer.ofText? mark.toList = none := by
    decide
  have hne : ∀ mark ∈ ["", "~", "null", "Null", "NULL"],
      String.ofList (Json.decimal value) ≠ mark := by
    rintro mark hmem rfl
    have hnone := hmark _ hmem
    rw [String.toList_ofList, Integer.ofText?_decimal] at hnone
    exact absurd hnone nofun
  simp only [List.mem_cons, List.not_mem_nil, or_false, forall_eq_or_imp, forall_eq] at hne
  simp only [isNone?, isNull, hne, decide_false, Bool.or_false, Option.some.injEq]
  exact String.isEmpty_eq_false_iff.mpr hne.1

theorem reads_some_int64 (value : Int64) :
    Reads (optional int64) (some value) (Json.int value.toInt).yamlNode := by
  have hread : int64 (.scalar .plain none (String.ofList (Json.decimal value.toInt)))
      = pure value := reads_int64 value
  show optional int64 (.scalar .plain none (String.ofList (Json.decimal value.toInt))) = _
  simp only [optional, resolve, pure_bind, isNone?_decimal, hread, map_pure]

theorem mapM_eq_pure {ι : Type} {f : ι → Reading α} {values : List α} {items : List ι}
    (h : List.Forall₂ (fun value item => f item = pure value) values items) :
    items.mapM f = pure values := by
  induction h with
  | nil => rfl
  | cons hitem _ ih => rw [List.mapM_cons, hitem, pure_bind, ih, pure_bind]

theorem reads_list {values : List α} {written : List Json}
    (h : List.Forall₂ (fun value json => Reads read value json.yamlNode) values written) :
    Reads (list read) values (Json.arr written).yamlNode := by
  have hitems : (Json.yamlItems written).mapM read = pure values := by
    apply mapM_eq_pure
    rw [Json.yamlItems_eq_map, List.forall₂_map_right_iff]
    exact h
  show list read (.sequence none (Json.yamlItems written)) = _
  simp only [list, resolve, pure_bind, hitems]

theorem pairs_mapping (expected : String) (pairs : List (Node × Node)) :
    Reader.pairs expected (.mapping none pairs) = pure pairs := by
  simp only [Reader.pairs, resolve, pure_bind]

theorem reads_entries (expected : String) {pairs : List (String × α)}
    {written : List (String × Json)}
    (h : List.Forall₂ (ReadsMember (fun value json => Reads read value json.yamlNode)) pairs
      written) : Reads (entries expected read) pairs (Json.obj written).yamlNode := by
  show entries expected read (.mapping none (Json.yamlPairs written)) = _
  rw [entries, pairs_mapping, pure_bind]
  apply mapM_eq_pure
  rw [Json.yamlPairs_eq_map, List.forall₂_map_right_iff]
  refine h.imp ?_
  rintro ⟨name, value⟩ ⟨_, json⟩ ⟨rfl, hvalue⟩
  have hname : text (.scalar .doubleQuoted none name) = pure name := reads_text name
  dsimp only
  rw [hname, pure_bind]
  dsimp only at hvalue
  rw [hvalue, pure_bind]

theorem reads_choice {choices : List (String × α)} {name : String} {value : α}
    (h : choices.lookup name = some value) :
    Reads (choice choices) value (Json.str name).yamlNode := by
  show choice choices (.scalar .doubleQuoted none name) = _
  simp [choice, resolve, tagName?, named, h]

/-- The members of a record are read one after the other. -/
theorem foldlM_member {record : Record Reader σ α} {draft final : σ}
    {members : List (String × Json)}
    (h : Fills (fun _ read value json => Reads read value json.yamlNode) record draft members
      final) : (Json.yamlPairs members).foldlM (member record) draft = pure final := by
  induction h with
  | done draft => rfl
  | @member draft final name value members field update hfield hnew hread hrest ih =>
    have hname : Reader.text (.scalar .doubleQuoted none name) = pure name := reads_text name
    have hmember : member record draft (.scalar .doubleQuoted none name, value.yamlNode)
        = pure (update draft) := by
      simp only [member, hname, pure_bind, hfield, hnew, Bool.false_eq_true, ↓reduceIte]
      rw [hread, pure_bind]
    rw [Json.yamlPairs, List.foldlM_cons, hmember, pure_bind, ih]

theorem reads_record {record : Record Reader σ α} {final : σ} {members : List (String × Json)}
    {value : α} (h : Fills (fun _ read value json => Reads read value json.yamlNode) record
      record.blank members final) (hfinish : record.finish final = .ok value) :
    Reads (Reader.record record) value (Json.obj members).yamlNode := by
  show Reader.record record (.mapping none (Json.yamlPairs members)) = _
  rw [Reader.record, pairs_mapping, pure_bind, foldlM_member h, pure_bind, hfinish]

end Reader

theorem Reads.map {α β : Type} {read : Reader α} {value : α} {node : Node} (f : α → β)
    (h : Reads read value node) : Reads (f <$> read) (f value) node := by
  show f <$> read node = _
  rw [h, map_pure]

instance : LawfulFormat Reader where
  Reads read value json := Reads read value json.yamlNode
  map := Reads.map
  int64 := Reader.reads_int64
  text := Reader.reads_text
  none := Reader.reads_none
  some_int64 := Reader.reads_some_int64
  list := Reader.reads_list
  entries expected _ := Reader.reads_entries expected
  choice := Reader.reads_choice
  record := Reader.reads_record

/-- A reader that reads the node of a value decodes its compact text, if that keeps to one line. -/
theorem decode_compact {α : Type} {read : Reader α} {value : α} {json : Json}
    (h : Reads read value json.yamlNode) (hline : json.KeepsLine) :
    decode read json.compact = .ok value := by
  obtain ⟨events, hdocument⟩ := Document.ofText_compact hline
  rw [decode, hdocument]
  dsimp only
  rw [h]
  rfl

end ClusterCapacity.Yaml
