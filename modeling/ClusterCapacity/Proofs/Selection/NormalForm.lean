import ClusterCapacity.Proofs.Selection.Addresses
import ClusterCapacity.Proofs.Text.Utf8
import Mathlib.Data.List.Sort
import Mathlib.Data.String.Lemmas
import Mathlib.Logic.Relation

/-!
# The normal form of an address list

Reading an address list puts it into a normal form (`parse_normal_form`): the ascending list of the
names in it, which is read as itself when it is joined again.  Two texts have the same normal form
if and only if the pieces of the one become those of the other by edits (`Edit`): putting them into
another order, repeating one, changing the white space around one, and adding an empty one.

An ascending list is determined by its members, so that no edit needs to be followed through
splitting and sorting: it is enough that it keeps which names are trimmed pieces.
-/

namespace ClusterCapacity

/-! ### White space around white space -/

namespace Text

/-- A text is its own trim if there is no white space around it. -/
theorem IsTrimmed.trim_eq {text : List Char} (h : IsTrimmed text) : trim text = text := by
  by_cases hne : text = []
  · rw [hne]
    rfl
  · exact trim_eq_of_pads hne h ⟨[], [], by simp, by simp, by simp⟩

theorem trim_eq_nil_of_forall {text : List Char} (h : ∀ c ∈ text, isBlank c = true) :
    trim text = [] := by
  rw [trim, List.dropWhile_eq_nil_iff.mpr h]
  rfl

theorem Pads.trans {core text padded : List Char} (h : Pads core text) (h' : Pads text padded) :
    Pads core padded := by
  obtain ⟨left, right, hleft, hright, rfl⟩ := h
  obtain ⟨left', right', hleft', hright', rfl⟩ := h'
  refine ⟨left' ++ left, right ++ right', ?_, ?_, by simp only [List.append_assoc]⟩
  · exact List.forall_mem_append.mpr ⟨hleft', hleft⟩
  · exact List.forall_mem_append.mpr ⟨hright, hright'⟩

/-- White space around a text is trimmed with its own. -/
theorem trim_eq_trim_of_pads {text padded : List Char} (h : Pads text padded) :
    trim padded = trim text := by
  have hpads : Pads (trim text) padded := (pads_trim text).trans h
  by_cases hne : trim text = []
  · -- nothing but white space is left
    rw [hne] at hpads ⊢
    obtain ⟨left, right, hleft, hright, rfl⟩ := hpads
    apply trim_eq_nil_of_forall
    rw [List.append_nil]
    exact List.forall_mem_append.mpr ⟨hleft, hright⟩
  · exact trim_eq_of_pads hne (isTrimmed_trim text) hpads

end Text

open Text (IsTrimmed Pads)

namespace Addresses

/-! ### Reading pieces -/

/-- The ascending list of the addresses in the given pieces. -/
def ofPieces (pieces : List (List Char)) : List String :=
  ofList (((pieces.map Text.trim).filter (fun piece => !piece.isEmpty)).map String.ofList)

variable {pieces others : List (List Char)} {text other : String}

theorem Separates.parse_eq (h : Separates pieces text.toList) : parse text = ofPieces pieces := by
  by_cases hne : pieces = []
  · -- no piece at all separates the empty text, which is otherwise one empty piece
    have htext : text = "" := by
      rw [← String.toList_eq_nil_iff, ← h.joined, hne]
      rfl
    rw [hne, htext]
    rfl
  · rw [parse, Addresses.pieces, ← h.joined, List.splitOn_intercalate ',' h.no_comma hne]
    rfl

theorem mem_ofPieces {address : String} :
    address ∈ ofPieces pieces
      ↔ address ≠ "" ∧ ∃ piece ∈ pieces, Text.trim piece = address.toList := by
  simp only [ofPieces, mem_ofList, List.mem_map, List.mem_filter, Bool.not_eq_true',
    List.isEmpty_eq_false_iff]
  constructor
  · rintro ⟨_, ⟨⟨piece, hpiece, rfl⟩, hne⟩, rfl⟩
    refine ⟨?_, piece, hpiece, String.toList_ofList.symm⟩
    rwa [Ne, ← String.toList_eq_nil_iff, String.toList_ofList]
  · rintro ⟨hne, piece, hpiece, htrim⟩
    refine ⟨address.toList, ⟨⟨piece, hpiece, htrim⟩, ?_⟩, String.ofList_toList⟩
    rwa [Ne, String.toList_eq_nil_iff]

/-- Ascending lists with the same members are equal. -/
theorem ofPieces_eq_of_mem_iff {addresses : List String} (h : addresses.Pairwise (· < ·))
    (hmem : ∀ address, address ∈ ofPieces pieces ↔ address ∈ addresses) :
    ofPieces pieces = addresses :=
  (pairwise_ofList _).eq_of_mem_iff h hmem

/-! ### Edits -/

/-- One change in the writing of an address list. -/
inductive Edit : List (List Char) → List (List Char) → Prop
  | reorder {pieces others : List (List Char)} (h : pieces.Perm others) : Edit pieces others
  | double {piece : List Char} (front back : List (List Char)) (h : piece ∈ front ++ back) :
      Edit (front ++ back) (front ++ piece :: back)
  | pad {piece padded : List Char} (front back : List (List Char)) (h : Pads piece padded) :
      Edit (front ++ piece :: back) (front ++ padded :: back)
  | addEmpty (front back : List (List Char)) : Edit (front ++ back) (front ++ [] :: back)

/-- An edit keeps which names are trimmed pieces. -/
theorem Edit.mem_map_trim_iff (h : Edit pieces others) {name : List Char} (hne : name ≠ []) :
    name ∈ pieces.map Text.trim ↔ name ∈ others.map Text.trim := by
  cases h with
  | reorder h => exact (h.map Text.trim).mem_iff
  | double front back h =>
    have hmem := List.mem_map_of_mem (f := Text.trim) h
    simp only [List.map_append, List.map_cons, List.mem_append, List.mem_cons] at hmem ⊢
    constructor
    · tauto
    · rintro (hfront | rfl | hback)
      exacts [.inl hfront, hmem, .inr hback]
  | pad front back h =>
    simp only [List.map_append, List.map_cons, Text.trim_eq_trim_of_pads h]
  | addEmpty front back =>
    have htrim : Text.trim [] = [] := rfl
    simp only [List.map_append, List.map_cons, List.mem_append, List.mem_cons, htrim, hne, false_or]

theorem Edit.ofPieces_eq (h : Edit pieces others) : ofPieces pieces = ofPieces others := by
  refine ofPieces_eq_of_mem_iff (pairwise_ofList _) fun address => ?_
  rw [mem_ofPieces, mem_ofPieces, ← List.mem_map, ← List.mem_map]
  refine and_congr_right fun hne => h.mem_map_trim_iff ?_
  rwa [Ne, String.toList_eq_nil_iff]

/-- Lists that become one another by edits are read alike. -/
theorem ofPieces_eq_of_eqvGen (h : Relation.EqvGen Edit pieces others) :
    ofPieces pieces = ofPieces others := by
  induction h with
  | rel _ _ h => exact h.ofPieces_eq
  | refl _ => rfl
  | symm _ _ _ ih => exact ih.symm
  | trans _ _ _ _ _ ih ih' => exact ih.trans ih'

/-! ### Editing a list into its normal form -/

theorem Edit.cons (piece : List Char) (h : Edit pieces others) :
    Edit (piece :: pieces) (piece :: others) := by
  cases h with
  | reorder h => exact reorder (h.cons piece)
  | double front back h => exact double (piece :: front) back (List.mem_cons_of_mem piece h)
  | pad front back h => exact pad (piece :: front) back h
  | addEmpty front back => exact addEmpty (piece :: front) back

theorem eqvGen_cons (piece : List Char) (h : Relation.EqvGen Edit pieces others) :
    Relation.EqvGen Edit (piece :: pieces) (piece :: others) := by
  induction h with
  | rel _ _ h => exact .rel _ _ (h.cons piece)
  | refl _ => exact .refl _
  | symm _ _ _ ih => exact .symm _ _ ih
  | trans _ _ _ _ _ ih ih' => exact .trans _ _ _ ih ih'

theorem eqvGen_trim_cons (piece : List Char) (pieces : List (List Char)) :
    Relation.EqvGen Edit (piece :: pieces) (Text.trim piece :: pieces) :=
  .symm _ _ (.rel _ _ (.pad [] pieces (Text.pads_trim piece)))

variable {address : String} {addresses : List String}

theorem insert_eq_self (h : addresses.Pairwise (· < ·)) (hmem : address ∈ addresses) :
    insert address addresses = addresses := by
  refine (pairwise_insert h).eq_of_mem_iff h fun other => ?_
  rw [mem_insert]
  exact or_iff_right_of_imp fun heq => heq ▸ hmem

theorem insert_perm (h : addresses.Pairwise (· < ·)) (hmem : address ∉ addresses) :
    (insert address addresses).Perm (address :: addresses) := by
  have hnodup : (address :: addresses).Nodup := List.nodup_cons.mpr ⟨hmem, h.imp ne_of_lt⟩
  refine (List.perm_ext_iff_of_nodup ((pairwise_insert h).imp ne_of_lt) hnodup).mpr fun other => ?_
  rw [mem_insert, List.mem_cons]

/-- One name more in front of a normal form: it is sorted in, or there already. -/
theorem eqvGen_insert (address : String) (h : addresses.Pairwise (· < ·)) :
    Relation.EqvGen Edit (address.toList :: addresses.map String.toList)
      ((insert address addresses).map String.toList) := by
  by_cases hmem : address ∈ addresses
  · rw [insert_eq_self h hmem]
    exact .symm _ _ (.rel _ _ (.double [] _ (List.mem_map_of_mem hmem)))
  · exact .rel _ _ (.reorder ((insert_perm h hmem).symm.map String.toList))

/-- Every list of pieces can be edited into the addresses that it is read as. -/
theorem eqvGen_ofPieces (pieces : List (List Char)) :
    Relation.EqvGen Edit pieces ((ofPieces pieces).map String.toList) := by
  -- by the pieces from the last to the first, as they are sorted in
  induction pieces with
  | nil => exact .refl _
  | cons piece rest ih =>
    refine .trans _ _ _ (eqvGen_trim_cons piece rest) ?_
    by_cases hne : Text.trim piece = []
    · have hskip : ofPieces (piece :: rest) = ofPieces rest := by
        simp [ofPieces, hne]
      rw [hskip, hne]
      exact .trans _ _ _ (.symm _ _ (.rel _ _ (.addEmpty [] rest))) ih
    · have hinsert : ofPieces (piece :: rest)
          = insert (String.ofList (Text.trim piece)) (ofPieces rest) := by
        simp [ofPieces, ofList, hne]
      have hsort := eqvGen_insert (String.ofList (Text.trim piece))
        (pairwise_ofList _ : (ofPieces rest).Pairwise (· < ·))
      rw [String.toList_ofList] at hsort
      rw [hinsert]
      exact .trans _ _ _ (eqvGen_cons _ ih) hsort

/-- Lists of pieces are read alike just if they become one another by edits. -/
theorem ofPieces_eq_iff :
    ofPieces pieces = ofPieces others ↔ Relation.EqvGen Edit pieces others := by
  constructor
  · intro h
    have hothers := eqvGen_ofPieces others
    rw [← h] at hothers
    exact .trans _ _ _ (eqvGen_ofPieces pieces) (.symm _ _ hothers)
  · exact ofPieces_eq_of_eqvGen

/-! ### The normal form -/

theorem mem_parse_iff_trim :
    address ∈ parse text
      ↔ address ≠ "" ∧ ∃ piece ∈ text.toList.splitOn ',', Text.trim piece = address.toList := by
  rw [(separates_splitOn text.toList).parse_eq, mem_ofPieces]

theorem separates_joined (h : ∀ address ∈ addresses, ',' ∉ address.toList) :
    Separates (addresses.map String.toList) (joined addresses).toList := by
  constructor
  · rw [List.forall_mem_map]
    exact h
  · rw [joined, String.toList_intercalate]
    rfl

/-- Addresses in ascending order are read back after they have been joined. -/
theorem parse_joined (h : addresses.Pairwise (· < ·))
    (haddress : ∀ address ∈ addresses, IsAddress address) :
    parse (joined addresses) = addresses := by
  have hcomma : ∀ address ∈ addresses, ',' ∉ address.toList :=
    fun address hmem => (haddress address hmem).no_comma
  rw [(separates_joined hcomma).parse_eq]
  refine ofPieces_eq_of_mem_iff h fun address => ?_
  rw [mem_ofPieces]
  constructor
  · rintro ⟨-, piece, hpiece, htrim⟩
    obtain ⟨other, hother, rfl⟩ := List.mem_map.mp hpiece
    rw [(haddress other hother).trimmed.trim_eq, String.toList_inj] at htrim
    exact htrim ▸ hother
  · intro hmem
    have hself := haddress address hmem
    exact ⟨hself.nonempty, address.toList, List.mem_map_of_mem hmem, hself.trimmed.trim_eq⟩

/-- Whether `addresses` are what `text` is read as, told by what stands in the text. -/
structure IsNormalForm (text : String) (addresses : List String) : Prop where
  mem_iff : ∀ address, address ∈ addresses
    ↔ address ≠ "" ∧ ∃ piece ∈ text.toList.splitOn ',', Text.trim piece = address.toList
  named_iff : ∀ address, address ∈ addresses ↔ Named text address
  ne_empty : ∀ address ∈ addresses, address ≠ ""
  no_comma : ∀ address ∈ addresses, ',' ∉ address.toList
  trim_eq : ∀ address ∈ addresses, Text.trim address.toList = address.toList
  ascending : addresses.Pairwise (fun address other =>
    address.toUTF8.toList < other.toUTF8.toList)
  rejoined : parse (joined addresses) = addresses

theorem isNormalForm_parse (text : String) : IsNormalForm text (parse text) where
  mem_iff _ := mem_parse_iff_trim
  named_iff _ := mem_parse_iff
  ne_empty _ hmem := (mem_parse_iff.mp hmem).1.nonempty
  no_comma _ hmem := (mem_parse_iff.mp hmem).1.no_comma
  trim_eq _ hmem := (mem_parse_iff.mp hmem).1.trimmed.trim_eq
  ascending := (pairwise_ofList _).imp Utf8.toUTF8_lt_iff.mpr
  rejoined := parse_joined (pairwise_ofList _) fun _ hmem => (mem_parse_iff.mp hmem).1

/-- An address list is read as its normal form: its members are the trimmed pieces that are not
empty, they are in the order of their bytes and are read back after they have been joined, and two
texts are read alike just if the pieces of the one become those of the other by edits. -/
theorem parse_normal_form (text : String) :
    IsNormalForm text (parse text) ∧
      ∀ (other : String) (pieces others : List (List Char)),
        Separates pieces text.toList → Separates others other.toList →
          (parse text = parse other ↔ Relation.EqvGen Edit pieces others) := by
  refine ⟨isNormalForm_parse text, fun other pieces others hpieces hothers => ?_⟩
  rw [hpieces.parse_eq, hothers.parse_eq, ofPieces_eq_iff]

/-- A text with white space, an empty piece and a repeated name, and its normal form. -/
theorem parse_normal_form_untidy :
    parse "b , a b,,\u3000b" = ["a b", "b"] ∧
      Relation.EqvGen Edit ["b ".toList, " a b".toList, [], "\u3000b".toList]
        ["a b".toList, "b".toList] := by
  have hpieces : Separates ["b ".toList, " a b".toList, [], "\u3000b".toList]
    "b , a b,,\u3000b".toList := ⟨by decide, by decide⟩
  have hothers : Separates ["a b".toList, "b".toList] "a b,b".toList := ⟨by decide, by decide⟩
  exact ⟨by decide, ((parse_normal_form _).2 _ _ _ hpieces hothers).mp (by decide)⟩

end Addresses

end ClusterCapacity
