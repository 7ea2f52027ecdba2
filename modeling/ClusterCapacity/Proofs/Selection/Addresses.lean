import ClusterCapacity.Proofs.Text.Pieces
import ClusterCapacity.Selection
import Mathlib.Data.List.Basic
import Mathlib.Data.List.TakeWhile
import Mathlib.Data.String.Basic
import Mathlib.Tactic.SplitIfs

/-!
# The addresses in a text

An address list is read by splitting, trimming and sorting; what it holds can be said without any of
these (`Addresses.mem_parse_iff`).  A name is read from a text if it stands between two commas, or a
comma and an end, with any white space around it, and if it is one that can be read at all: it is
not empty, has no comma and neither begins nor ends with white space.
-/

namespace ClusterCapacity

/-! ### White space at the ends -/

namespace Text

/-- Whether a text neither begins nor ends with white space. -/
structure IsTrimmed (text : List Char) : Prop where
  head : ∀ c ∈ text.head?, isBlank c = false
  last : ∀ c ∈ text.getLast?, isBlank c = false

/-- Whether `text` is `core` with any white space around it. -/
def Pads (core text : List Char) : Prop :=
  ∃ left right, (∀ c ∈ left, isBlank c = true) ∧ (∀ c ∈ right, isBlank c = true) ∧
    text = left ++ core ++ right

/-- What is dropped from the end is blank. -/
theorem exists_dropEnd_append (p : Char → Bool) (text : List Char) :
    ∃ dropped, (∀ c ∈ dropped, p c = true) ∧ dropEnd p text ++ dropped = text := by
  refine ⟨(text.reverse.takeWhile p).reverse, ?_, ?_⟩
  · intro c hc
    exact List.mem_takeWhile_imp (List.mem_reverse.mp hc)
  · rw [dropEnd, ← List.reverse_append, List.takeWhile_append_dropWhile, List.reverse_reverse]

theorem isTrimmed_trim (text : List Char) : IsTrimmed (trim text) := by
  constructor
  · intro c hc
    obtain ⟨dropped, -, hsplit⟩ := exists_dropEnd_append isBlank (text.dropWhile isBlank)
    -- the first character is that of the text without the white space in front
    have hhead : (text.dropWhile isBlank).head? = some c := by
      rw [← hsplit, List.head?_append]
      exact congrArg (fun head => Option.or head _) hc
    have hkept := List.head?_dropWhile_not isBlank text
    rwa [hhead] at hkept
  · intro c hc
    rw [trim, dropEnd, List.getLast?_reverse] at hc
    have hkept := List.head?_dropWhile_not isBlank (text.dropWhile isBlank).reverse
    rwa [hc] at hkept

theorem pads_trim (text : List Char) : Pads (trim text) text := by
  obtain ⟨dropped, hblank, hsplit⟩ := exists_dropEnd_append isBlank (text.dropWhile isBlank)
  refine ⟨text.takeWhile isBlank, dropped, fun c hc => List.mem_takeWhile_imp hc, hblank, ?_⟩
  rw [List.append_assoc, trim, hsplit, List.takeWhile_append_dropWhile]

theorem dropWhile_eq_self_of_head? {p : Char → Bool} {text : List Char}
    (h : ∀ c ∈ text.head?, p c = false) : text.dropWhile p = text := by
  cases text with
  | nil => rfl
  | cons c rest => rw [List.dropWhile_cons, h c rfl]; rfl

theorem trim_eq_of_pads {core text : List Char} (hne : core ≠ []) (h : IsTrimmed core)
    (hpads : Pads core text) : trim text = core := by
  obtain ⟨left, right, hleft, hright, rfl⟩ := hpads
  have hhead : ∀ c ∈ (core ++ right).head?, isBlank c = false := by
    intro c hc
    rw [List.head?_append_of_ne_nil core hne] at hc
    exact h.head c hc
  have hlast : ∀ c ∈ core.reverse.head?, isBlank c = false := by
    intro c hc
    rw [List.head?_reverse] at hc
    exact h.last c hc
  have hblank : ∀ c ∈ right.reverse, isBlank c = true :=
    fun c hc => hright c (List.mem_reverse.mp hc)
  rw [trim, List.append_assoc, List.dropWhile_append_of_pos hleft,
    dropWhile_eq_self_of_head? hhead, dropEnd, List.reverse_append,
    List.dropWhile_append_of_pos hblank, dropWhile_eq_self_of_head? hlast, List.reverse_reverse]

/-- A text is trimmed to what it has white space around. -/
theorem trim_eq_iff {core text : List Char} (hne : core ≠ []) :
    trim text = core ↔ IsTrimmed core ∧ Pads core text := by
  constructor
  · rintro rfl
    exact ⟨isTrimmed_trim text, pads_trim text⟩
  · rintro ⟨htrimmed, hpads⟩
    exact trim_eq_of_pads hne htrimmed hpads

end Text

open Text (IsTrimmed Pads)

namespace Addresses

/-! ### Pieces between commas -/

/-- `pieces` are what stands between the commas of `text`. -/
structure Separates (pieces : List (List Char)) (text : List Char) : Prop where
  no_comma : ∀ piece ∈ pieces, ',' ∉ piece
  joined : [','].intercalate pieces = text

theorem separates_splitOn (text : List Char) : Separates (text.splitOn ',') text :=
  ⟨fun _ => Text.not_mem_of_mem_splitOn, List.intercalate_splitOn ','⟩

/-- There is only one way of separating a text, apart from none at all for the empty one. -/
theorem Separates.mem_splitOn {pieces : List (List Char)} {text piece : List Char}
    (h : Separates pieces text) (hmem : piece ∈ pieces) : piece ∈ text.splitOn ',' := by
  rw [← h.joined, List.splitOn_intercalate ',' h.no_comma (List.ne_nil_of_mem hmem)]
  exact hmem

/-! ### Ascending lists -/

theorem mem_insert {address other : String} {addresses : List String} :
    other ∈ insert address addresses ↔ other = address ∨ other ∈ addresses := by
  induction addresses with
  | nil => simp [insert]
  | cons first rest ih =>
    rw [insert]
    split_ifs with hlt heq
    · exact List.mem_cons
    · subst heq
      simp
    · rw [List.mem_cons, ih, List.mem_cons, or_left_comm]

theorem mem_ofList {address : String} {addresses : List String} :
    address ∈ ofList addresses ↔ address ∈ addresses := by
  induction addresses with
  | nil => exact Iff.rfl
  | cons first rest ih =>
    have hfold : ofList (first :: rest) = insert first (ofList rest) := rfl
    rw [hfold, mem_insert, ih, List.mem_cons]

theorem pairwise_insert {address : String} {addresses : List String}
    (h : addresses.Pairwise (· < ·)) : (insert address addresses).Pairwise (· < ·) := by
  induction addresses with
  | nil => exact List.pairwise_singleton _ _
  | cons first rest ih =>
    obtain ⟨hfirst, hrest⟩ := List.pairwise_cons.mp h
    rw [insert]
    split_ifs with hlt heq
    · refine List.pairwise_cons.mpr ⟨?_, h⟩
      rw [List.forall_mem_cons]
      exact ⟨hlt, fun other hother => lt_trans hlt (hfirst other hother)⟩
    · exact h
    · refine List.pairwise_cons.mpr ⟨?_, ih hrest⟩
      intro other hother
      rcases mem_insert.mp hother with rfl | hother
      · exact lt_of_le_of_ne (not_lt.mp hlt) (Ne.symm heq)
      · exact hfirst other hother

theorem pairwise_ofList (addresses : List String) : (ofList addresses).Pairwise (· < ·) := by
  induction addresses with
  | nil => exact List.Pairwise.nil
  | cons first rest ih => exact pairwise_insert ih

/-! ### Named addresses -/

/-- Whether a name stands between the commas of a text, with any white space around it. -/
def Names (text name : String) : Prop :=
  ∃ pieces, Separates pieces text.toList ∧ ∃ piece ∈ pieces, Pads name.toList piece

/-- Whether a name can be an address: it is not empty, has no comma and no white space around it. -/
structure IsAddress (name : String) : Prop where
  nonempty : name ≠ ""
  no_comma : ',' ∉ name.toList
  trimmed : IsTrimmed name.toList

theorem mem_pieces {text piece : List Char} :
    piece ∈ pieces text ↔ piece ≠ [] ∧ ∃ raw ∈ text.splitOn ',', Text.trim raw = piece := by
  simp only [pieces, List.mem_filter, List.mem_map, Bool.not_eq_true', List.isEmpty_eq_false_iff]
  exact and_comm

/-- The addresses in a text are the names between its commas. -/
theorem mem_parse_iff {text name : String} :
    name ∈ parse text ↔ IsAddress name ∧ Names text name := by
  have hparse : name ∈ parse text ↔ name.toList ∈ pieces text.toList := by
    rw [parse, mem_ofList, List.mem_map]
    constructor
    · rintro ⟨piece, hpiece, rfl⟩
      rwa [String.toList_ofList]
    · intro hpiece
      exact ⟨name.toList, hpiece, String.ofList_toList⟩
  rw [hparse, mem_pieces]
  constructor
  · rintro ⟨hne, raw, hraw, htrim⟩
    obtain ⟨htrimmed, hpads⟩ := (Text.trim_eq_iff hne).mp htrim
    refine ⟨⟨?_, ?_, htrimmed⟩, _, separates_splitOn _, raw, hraw, hpads⟩
    · rintro rfl
      exact hne rfl
    · -- a comma of the name would be one of the piece
      obtain ⟨left, right, -, -, hsplit⟩ := hpads
      intro hcomma
      apply Text.not_mem_of_mem_splitOn hraw
      rw [hsplit]
      exact List.mem_append_left _ (List.mem_append_right _ hcomma)
  · rintro ⟨haddress, pieces, hpieces, piece, hpiece, hpads⟩
    have hne : name.toList ≠ [] := fun h => haddress.nonempty (String.toList_eq_nil_iff.mp h)
    exact ⟨hne, piece, hpieces.mem_splitOn hpiece,
      Text.trim_eq_of_pads hne haddress.trimmed hpads⟩

/-- Addresses are told apart again after they have been joined. -/
theorem map_splitOn_joined {addresses : List String} (hne : addresses ≠ [])
    (hcomma : ∀ address ∈ addresses, ',' ∉ address.toList) :
    ((joined addresses).toList.splitOn ',').map String.ofList = addresses := by
  have hjoined : (joined addresses).toList = [','].intercalate (addresses.map String.toList) :=
    String.toList_intercalate
  have hpieces : ∀ piece ∈ addresses.map String.toList, ',' ∉ piece := by
    intro piece hpiece
    obtain ⟨address, haddress, rfl⟩ := List.mem_map.mp hpiece
    exact hcomma address haddress
  have hround : String.ofList ∘ String.toList = id := funext fun _ => String.ofList_toList
  rw [hjoined, List.splitOn_intercalate ',' hpieces (by simpa using hne), List.map_map, hround,
    List.map_id]

/-- Whether a text names an address. -/
def Named (text name : String) : Prop := IsAddress name ∧ Names text name

instance (text name : String) : Decidable (Named text name) :=
  decidable_of_iff (name ∈ parse text) mem_parse_iff

end Addresses

end ClusterCapacity
