import ClusterCapacity.Json.Printer
import ClusterCapacity.Proofs.Json.Lexical

/-!
# Strings are read back

A scan finds the pieces that a string is written with (`scan_append`).  The pieces of a printed
string are known: a control character without a letter of its own is a code unit, and every other
character stands for itself (`pieceOf`).  They join to the text again (`text_ofText`).
-/

namespace ClusterCapacity.Json.Quoted

/-- The control characters that are escaped by a letter. -/
def lettered : List Char := ['\x08', '\t', '\n', '\x0c', '\r']

/-- Whether a character is escaped by its number. -/
def isNumbered (c : Char) : Bool := c.toNat < 0x20 && !lettered.contains c

/-- The piece that a printed character is scanned as. -/
def pieceOf (c : Char) : Piece := if isNumbered c then .unit c.toNat else .char c

/-- A printed text as it is scanned. -/
def ofText (text : String) : Quoted := ⟨text.toList.map pieceOf, none⟩

/-! ### Scanning -/

/-- A piece is scanned from its text. -/
theorem scan_piece {piece : Piece} {written : List Char} (h : PieceWritten piece written)
    (text : List Char) : scan (written ++ text) = cons piece (scan text) := by
  cases h with
  | @char c hquote hescape hcontrol =>
    rw [List.singleton_append, scan]
    · rw [if_neg hcontrol]
    all_goals simp [hquote, hescape]
  | @escaped letter c h =>
    -- the letter `u` is no escape by itself
    have hletter : letter ≠ 'u' := by
      rintro rfl
      nomatch h
    rw [List.cons_append, List.singleton_append, scan]
    · rw [h]
    all_goals simp [hletter]
  | unit h => simp only [List.cons_append, List.nil_append, scan, h]

/-- The pieces of a string are scanned up to its closing quote. -/
theorem scan_append {pieces : List Piece} {written : List Char} (h : PiecesWritten pieces written)
    (rest : List Char) : scan (written ++ rest) = (⟨pieces, none⟩, rest) := by
  induction h with
  | nil => rfl
  | cons hpiece _ ih =>
    rw [List.append_assoc, scan_piece hpiece, ih]
    rfl

/-! ### What is printed -/

theorem unit?_hexDigit : ∀ code < 0x20,
    unit? '0' '0' (hexDigit (code / 16)) (hexDigit (code % 16)) = some code := by
  decide

theorem pieceWritten_escapedChar (c : Char) : PieceWritten (pieceOf c) (escapedChar c) := by
  by_cases hletter : c ∈ ['"', '\\', '\x08', '\t', '\n', '\x0c', '\r']
  · simp only [List.mem_cons, List.not_mem_nil, or_false] at hletter
    rcases hletter with rfl | rfl | rfl | rfl | rfl | rfl | rfl <;> exact .escaped rfl
  simp only [List.mem_cons, List.not_mem_nil, or_false, not_or] at hletter
  obtain ⟨hquote, hslash, hbackspace, htab, hline, hfeed, hreturn⟩ := hletter
  by_cases hcontrol : c.toNat < 0x20
  · have hpiece : pieceOf c = .unit c.toNat := by
      simp [pieceOf, isNumbered, lettered, hcontrol, hbackspace, htab, hline, hfeed, hreturn]
    simp only [escapedChar, hquote, hslash, hbackspace, htab, hline, hfeed, hreturn, hcontrol,
      ↓reduceIte, hpiece]
    exact .unit (unit?_hexDigit _ hcontrol)
  · have hpiece : pieceOf c = .char c := by
      simp [pieceOf, isNumbered, hcontrol]
    simp only [escapedChar, hquote, hslash, hbackspace, htab, hline, hfeed, hreturn, hcontrol,
      ↓reduceIte, hpiece]
    exact .char hquote hslash hcontrol

/-- A printed text is its pieces. -/
theorem piecesWritten_escaped (text : List Char) :
    PiecesWritten (text.map pieceOf) (text.flatMap escapedChar ++ ['"']) := by
  induction text with
  | nil => exact .nil
  | cons c text ih =>
    rw [List.flatMap_cons, List.append_assoc]
    exact .cons (pieceWritten_escapedChar c) ih

/-! ### Joining the pieces -/

theorem join_map_pieceOf (text : List Char) : join none (text.map pieceOf) = .ok text := by
  induction text with
  | nil => rfl
  | cons c text ih =>
    rw [List.map_cons, pieceOf]
    split
    · rename_i hnumbered
      have hsmall : c.toNat < 0x20 := by
        simp only [isNumbered, Bool.and_eq_true, decide_eq_true_eq] at hnumbered
        exact hnumbered.1
      -- a control character lies far below the surrogates
      have htrailing : isTrailing c.toNat = false := by
        simp only [isTrailing, Bool.and_eq_false_iff, decide_eq_false_iff_not]
        omega
      have hleading : isLeading c.toNat = false := by
        simp only [isLeading, Bool.and_eq_false_iff, decide_eq_false_iff_not]
        omega
      unfold join
      rw [htrailing, hleading, ih, Char.ofNat_toNat]
      rfl
    · rw [join, ih]
      rfl

theorem text_ofText (text : String) : (ofText text).text = .ok text := by
  simp [ofText, Quoted.text, join_map_pieceOf, bind, Except.bind]

end ClusterCapacity.Json.Quoted
