import ClusterCapacity.Proofs.Json.Numeral
import ClusterCapacity.Proofs.Yaml.Scanner

/-!
# The tokens of JSON as YAML

The compact text of a JSON value is scanned in YAML as tokens that follow the structure of the value
(`scan_yaml`): brackets and commas are those of flow collections, words and numbers are plain
scalars, and in front of every name of a member stands the token for a key.  The texts have to be
printable and the names short enough for keys (`KeepsLine`).
-/

namespace ClusterCapacity.Json

open Yaml

mutual

/-- The YAML tokens of a value: words are plain scalars, and every name is a key. -/
def yamlTokens : Json → List Yaml.Token
  | null => [.scalar .plain "null"]
  | bool value => [.scalar .plain (String.ofList (truth value))]
  | int value => [.scalar .plain (String.ofList (decimal value))]
  | str text => [.scalar .doubleQuoted text]
  | arr [] => [.flowSequenceStart, .flowSequenceEnd]
  | arr (item :: rest) => .flowSequenceStart :: (item.yamlTokens ++ yamlItemTokens rest)
  | obj [] => [.flowMappingStart, .flowMappingEnd]
  | obj ((name, value) :: rest) =>
    .flowMappingStart :: .key :: .scalar .doubleQuoted name :: .value ::
      (value.yamlTokens ++ yamlMemberTokens rest)

/-- The tokens of the items after the first one and of the closing bracket. -/
def yamlItemTokens : List Json → List Yaml.Token
  | [] => [.flowSequenceEnd]
  | item :: rest => .flowEntry :: (item.yamlTokens ++ yamlItemTokens rest)

/-- The tokens of the members after the first one and of the closing brace. -/
def yamlMemberTokens : List (String × Json) → List Yaml.Token
  | [] => [.flowMappingEnd]
  | (name, value) :: rest =>
    .flowEntry :: .key :: .scalar .doubleQuoted name :: .value ::
      (value.yamlTokens ++ yamlMemberTokens rest)

end

/-- Whether a text is a name that can be a key: it is printable and not too long. -/
def IsKey (name : String) : Prop :=
  (∀ c ∈ name.toList, IsPrintable c) ∧ (quoted name).length ≤ 1024

-- the list of the characters is looked through, not all characters that there are
instance : DecidablePred IsKey := fun name =>
  haveI : Decidable (∀ c ∈ name.toList, IsPrintable c) := List.decidableBAll _ _
  inferInstanceAs (Decidable (_ ∧ _))

/-- The values whose texts are printable and whose names can be keys. -/
inductive KeepsLine : Json → Prop where
  | null : KeepsLine null
  | bool (value : Bool) : KeepsLine (bool value)
  | int (value : Int) : KeepsLine (int value)
  | str {text : String} (h : ∀ c ∈ text.toList, IsPrintable c) : KeepsLine (str text)
  | arr {items : List Json} (h : ∀ item ∈ items, KeepsLine item) : KeepsLine (arr items)
  | obj {members : List (String × Json)}
    (hnames : ∀ member ∈ members, IsKey member.1) (h : ∀ member ∈ members, KeepsLine member.2) :
    KeepsLine (obj members)

/-! ### Scanning a value -/

theorem isWord_truth (value : Bool) : Scanner.IsWord (truth value) := by
  cases value <;> exact .unsigned (by decide) (by decide) (by decide)

theorem isWord_decimal (value : Int) : Scanner.IsWord (decimal value) := by
  have hword {c : Char} (h : c ∈ Nat.toDigits 10 value.natAbs) :
      Yaml.isWordChar c = true ∧ c ≠ '-' := by
    have hdigit := Numeral.isDigit_toDigits h
    refine ⟨by simp [Yaml.isWordChar, Char.isAlphanum, hdigit], ?_⟩
    rintro rfl
    exact absurd hdigit (by decide)
  rw [Numeral.decimal_eq]
  cases hdigits : Nat.toDigits 10 value.natAbs with
  | nil => exact absurd hdigits Nat.toDigits_ne_nil
  | cons c digits =>
    rw [hdigits] at hword
    have hc := hword (List.mem_cons_self ..)
    have hrest : digits.all Yaml.isWordChar = true :=
      List.all_eq_true.mpr (fun other h => (hword (List.mem_cons_of_mem c h)).1)
    split
    · exact .signed hc.1 hc.2 hrest
    · exact .unsigned hc.1 hc.2 hrest

theorem endsItem_compactItems (items : List Json) (rest : List Char) (depth : Nat) :
    EndsItem (0 < depth + 1) (compactItems items ++ rest) := by
  cases items <;> simp [compactItems, EndsItem]

theorem endsItem_compactMembers (members : List (String × Json)) (rest : List Char)
    (depth : Nat) : EndsItem (0 < depth + 1) (compactMembers members ++ rest) := by
  cases members <;> simp [compactMembers, EndsItem]

open Yaml.Scanner

variable {rest : List Char} {keyAllowed : Bool} {depth : Nat}

theorem takes_openList : Takes ['['] rest [.flowSequenceStart] ⟨keyAllowed, depth⟩
    ⟨true, depth + 1⟩ :=
  takes_openFlow (by decide) (fun _ _ => by simp [takeToken, Yaml.atDocumentMark])

theorem takes_closeList : Takes [']'] rest [.flowSequenceEnd] ⟨keyAllowed, depth + 1⟩
    ⟨false, depth⟩ :=
  takes_closeFlow (by decide) (fun _ _ => by simp [takeToken, Yaml.atDocumentMark])

theorem takes_openObject : Takes ['{'] rest [.flowMappingStart] ⟨keyAllowed, depth⟩
    ⟨true, depth + 1⟩ :=
  takes_openFlow (by decide) (fun _ _ => by simp [takeToken, Yaml.atDocumentMark])

theorem takes_closeObject : Takes ['}'] rest [.flowMappingEnd] ⟨keyAllowed, depth + 1⟩
    ⟨false, depth⟩ :=
  takes_closeFlow (by decide) (fun _ _ => by simp [takeToken, Yaml.atDocumentMark])

mutual

/-- The compact text of a value is taken as its tokens, inside flow brackets or around them. -/
theorem takes_compactChars {value : Json} (hvalue : value.KeepsLine) {rest : List Char}
    {keyAllowed : Bool} {depth : Nat} (hrest : EndsItem (0 < depth) rest) :
    Takes value.compactChars rest value.yamlTokens ⟨keyAllowed, depth⟩ ⟨false, depth⟩ := by
  match value with
  | null => exact takes_word (.unsigned (by decide) (by decide) (by decide)) hrest
  | bool value => exact takes_word (isWord_truth value) hrest
  | int value => exact takes_word (isWord_decimal value) hrest
  | str text =>
    cases hvalue with
    | str htext => exact takes_text htext
  | arr [] => exact takes_openList.append takes_closeList
  | arr (item :: items) =>
    cases hvalue with
    | arr hitems =>
      obtain ⟨hitem, hitems⟩ := List.forall_mem_cons.mp hitems
      exact takes_openList.append ((takes_compactChars hitem
        (endsItem_compactItems items rest depth)).append (takes_compactItems hitems))
  | obj [] => exact takes_openObject.append takes_closeObject
  | obj ((name, value) :: members) =>
    cases hvalue with
    | obj hnames hvalues =>
      obtain ⟨hname, hnames⟩ := List.forall_mem_cons.mp hnames
      obtain ⟨hvalue, hvalues⟩ := List.forall_mem_cons.mp hvalues
      have hmember := (takes_key hname.1 hname.2).append ((takes_compactChars hvalue
        (endsItem_compactMembers members rest depth)).append (takes_compactMembers hnames hvalues))
      rw [List.append_assoc, List.singleton_append] at hmember
      exact takes_openObject.append hmember

theorem takes_compactItems {items : List Json} (hitems : ∀ item ∈ items, item.KeepsLine)
    {rest : List Char} {depth : Nat} :
    Takes (compactItems items) rest (yamlItemTokens items) ⟨false, depth + 1⟩ ⟨false, depth⟩ := by
  match items with
  | [] => exact takes_closeList
  | item :: items =>
    obtain ⟨hitem, hitems⟩ := List.forall_mem_cons.mp hitems
    exact takes_comma.append ((takes_compactChars hitem
      (endsItem_compactItems items rest depth)).append (takes_compactItems hitems))

theorem takes_compactMembers {members : List (String × Json)}
    (hnames : ∀ member ∈ members, IsKey member.1)
    (hvalues : ∀ member ∈ members, member.2.KeepsLine) {rest : List Char} {depth : Nat} :
    Takes (compactMembers members) rest (yamlMemberTokens members) ⟨false, depth + 1⟩
      ⟨false, depth⟩ := by
  match members with
  | [] => exact takes_closeObject
  | (name, value) :: members =>
    obtain ⟨hname, hnames⟩ := List.forall_mem_cons.mp hnames
    obtain ⟨hvalue, hvalues⟩ := List.forall_mem_cons.mp hvalues
    have hmember := (takes_key hname.1 hname.2).append ((takes_compactChars hvalue
      (endsItem_compactMembers members rest depth)).append (takes_compactMembers hnames hvalues))
    rw [List.append_assoc, List.singleton_append] at hmember
    exact takes_comma.append hmember

end

/-! ### Printable values -/

theorem isPrintable_truth (value : Bool) : ∀ c ∈ truth value, IsPrintable c := by
  cases value <;> exact isPrintable_of_all (by decide)

theorem isPrintable_decimal (value : Int) : ∀ c ∈ decimal value, IsPrintable c := by
  have hdigit {c : Char} (h : c ∈ Nat.toDigits 10 value.natAbs) : IsPrintable c := by
    have hdigit := Numeral.isDigit_toDigits h
    simp only [Char.isDigit, Bool.and_eq_true, decide_eq_true_eq] at hdigit
    exact ⟨Nat.le_trans (by decide) (UInt32.le_iff_toNat_le.mp hdigit.1),
      Nat.le_trans (UInt32.le_iff_toNat_le.mp hdigit.2) (by decide)⟩
  intro c hc
  rw [Numeral.decimal_eq] at hc
  split at hc
  · rcases List.mem_cons.mp hc with rfl | hc
    · decide
    · exact hdigit hc
  · exact hdigit hc

theorem isPrintable_member {name : String} {chars : List Char} (hname : IsKey name)
    (hchars : ∀ c ∈ chars, IsPrintable c) : ∀ c ∈ quoted name ++ ':' :: chars, IsPrintable c :=
  List.forall_mem_append.mpr ⟨isPrintable_quoted hname.1,
    List.forall_mem_cons.mpr ⟨by decide, hchars⟩⟩

mutual

theorem isPrintable_compactChars {value : Json} (hvalue : value.KeepsLine) :
    ∀ c ∈ value.compactChars, IsPrintable c := by
  match value with
  | null => exact isPrintable_of_all (by decide)
  | bool value => exact isPrintable_truth value
  | int value => exact isPrintable_decimal value
  | str text =>
    cases hvalue with
    | str htext => exact isPrintable_quoted htext
  | arr [] => exact isPrintable_of_all (by decide)
  | arr (item :: items) =>
    cases hvalue with
    | arr hitems =>
      obtain ⟨hitem, hitems⟩ := List.forall_mem_cons.mp hitems
      exact List.forall_mem_cons.mpr ⟨by decide, List.forall_mem_append.mpr
        ⟨isPrintable_compactChars hitem, isPrintable_compactItems hitems⟩⟩
  | obj [] => exact isPrintable_of_all (by decide)
  | obj ((name, value) :: members) =>
    cases hvalue with
    | obj hnames hvalues =>
      obtain ⟨hname, hnames⟩ := List.forall_mem_cons.mp hnames
      obtain ⟨hvalue, hvalues⟩ := List.forall_mem_cons.mp hvalues
      exact List.forall_mem_cons.mpr ⟨by decide, isPrintable_member hname
        (List.forall_mem_append.mpr
          ⟨isPrintable_compactChars hvalue, isPrintable_compactMembers hnames hvalues⟩)⟩

theorem isPrintable_compactItems {items : List Json} (hitems : ∀ item ∈ items, item.KeepsLine) :
    ∀ c ∈ compactItems items, IsPrintable c := by
  match items with
  | [] => exact isPrintable_of_all (by decide)
  | item :: items =>
    obtain ⟨hitem, hitems⟩ := List.forall_mem_cons.mp hitems
    exact List.forall_mem_cons.mpr ⟨by decide, List.forall_mem_append.mpr
      ⟨isPrintable_compactChars hitem, isPrintable_compactItems hitems⟩⟩

theorem isPrintable_compactMembers {members : List (String × Json)}
    (hnames : ∀ member ∈ members, IsKey member.1)
    (hvalues : ∀ member ∈ members, member.2.KeepsLine) :
    ∀ c ∈ compactMembers members, IsPrintable c := by
  match members with
  | [] => exact isPrintable_of_all (by decide)
  | (name, value) :: members =>
    obtain ⟨hname, hnames⟩ := List.forall_mem_cons.mp hnames
    obtain ⟨hvalue, hvalues⟩ := List.forall_mem_cons.mp hvalues
    exact List.forall_mem_cons.mpr ⟨by decide, isPrintable_member hname
      (List.forall_mem_append.mpr
        ⟨isPrintable_compactChars hvalue, isPrintable_compactMembers hnames hvalues⟩)⟩

end

/-! ### The whole text -/

theorem prepare_compact {value : Json} (h : value.KeepsLine) :
    prepare value.compact = .ok value.compactChars :=
  prepare_of_printable (isPrintable_compactChars h)

/-- The compact text of a value is scanned in YAML as the tokens of the value. -/
theorem scan_yaml {value : Json} (h : value.KeepsLine) :
    Yaml.Token.scan value.compactChars = .ok value.yamlTokens :=
  scan_of_takes (takes_compactChars h (by simp [EndsItem]))

end ClusterCapacity.Json
