import ClusterCapacity.Json.Token
import ClusterCapacity.Proofs.Results
import Mathlib.Data.List.TakeWhile

/-!
# JSON over characters

How each token is written, and what a whole text is: tokens one after the other with any blanks
around them (`Spelling`).  The tokens that a scan finds are those that its text is written with,
unless one of them is faulty (`spelling_scan`).
-/

namespace ClusterCapacity.Json

/-! ### Numbers -/

/-- Whether characters are digits, at least one. -/
def IsDigits (digits : List Char) : Prop := digits ≠ [] ∧ ∀ c ∈ digits, c.isDigit = true

/-- Whether a text is a fraction: the point and digits. -/
inductive FractionWritten : Option (List Char) → List Char → Prop where
  | none : FractionWritten none []
  | some {digits : List Char} (h : IsDigits digits) : FractionWritten (some digits) ('.' :: digits)

/-- Whether a text is a sign in front of an exponent. -/
def SignWritten (negative : Bool) (text : List Char) : Prop :=
  if negative then text = ['-'] else text = [] ∨ text = ['+']

/-- Whether a text is an exponent: a letter, a sign and digits. -/
inductive ExponentWritten : Option Exponent → List Char → Prop where
  | none : ExponentWritten none []
  | some {negative : Bool} {digits : List Char} {letter : Char} {sign : List Char}
    (hletter : letter = 'e' ∨ letter = 'E') (hsign : SignWritten negative sign)
    (h : IsDigits digits) :
    ExponentWritten (some ⟨negative, digits⟩) (letter :: (sign ++ digits))

/-- Whether a text is a numeral; a leading zero stands alone. -/
inductive NumeralWritten : Numeral → List Char → Prop where
  | intro {negative : Bool} {whole : List Char} {fraction : Option (List Char)}
    {exponent : Option Exponent} {places power : List Char} (hwhole : IsDigits whole)
    (hzero : whole.head? = some '0' → whole.length = 1)
    (hfraction : FractionWritten fraction places) (hexponent : ExponentWritten exponent power) :
    NumeralWritten ⟨negative, whole, fraction, exponent⟩
      ((if negative then ['-'] else []) ++ (whole ++ (places ++ power)))

namespace Numeral

variable {text digits rest : List Char}

theorem written_scanDigits (h : scanDigits text = .ok (digits, rest)) :
    IsDigits digits ∧ text = digits ++ rest := by
  simp only [scanDigits] at h
  split at h
  case isTrue => cases h
  case isFalse hne =>
    cases h
    rw [List.isEmpty_iff] at hne
    exact ⟨⟨hne, fun c => List.mem_takeWhile_imp⟩, List.takeWhile_append_dropWhile.symm⟩

theorem written_scanWhole (h : scanWhole text = .ok (digits, rest)) :
    IsDigits digits ∧ (digits.head? = some '0' → digits.length = 1) ∧ text = digits ++ rest := by
  obtain ⟨⟨found, after⟩, hdigits, hchecked⟩ := bind_eq_ok.mp h
  obtain ⟨hfound, rfl⟩ := written_scanDigits hdigits
  dsimp only at hchecked
  split at hchecked
  case isTrue => cases hchecked
  case isFalse hzero =>
    cases hchecked
    refine ⟨hfound, fun hhead => ?_, rfl⟩
    simpa [hhead] using hzero

theorem written_scanFraction {fraction : Option (List Char)}
    (h : scanFraction text = .ok (fraction, rest)) :
    ∃ written, FractionWritten fraction written ∧ text = written ++ rest := by
  unfold scanFraction at h
  split at h
  · obtain ⟨⟨digits, after⟩, hdigits, ⟨⟩⟩ := bind_eq_ok.mp h
    obtain ⟨hfound, rfl⟩ := written_scanDigits hdigits
    exact ⟨_, .some hfound, rfl⟩
  · cases h
    exact ⟨[], .none, rfl⟩

theorem written_scanSign (text : List Char) :
    ∃ sign, SignWritten (scanSign text).1 sign ∧ text = sign ++ (scanSign text).2 := by
  unfold scanSign
  split
  · exact ⟨['-'], rfl, rfl⟩
  · exact ⟨['+'], .inr rfl, rfl⟩
  · exact ⟨[], .inl rfl, rfl⟩

theorem written_scanExponent {exponent : Option Exponent}
    (h : scanExponent text = .ok (exponent, rest)) :
    ∃ written, ExponentWritten exponent written ∧ text = written ++ rest := by
  unfold scanExponent at h
  split at h
  · cases h
    exact ⟨[], .none, rfl⟩
  · rename_i letter text
    split at h
    case isTrue hletter =>
      obtain ⟨sign, hsign, htext⟩ := written_scanSign text
      generalize scanSign text = signed at h hsign htext
      obtain ⟨negative, unsigned⟩ := signed
      obtain ⟨⟨digits, after⟩, hdigits, ⟨⟩⟩ := bind_eq_ok.mp h
      obtain ⟨hfound, rfl⟩ := written_scanDigits hdigits
      refine ⟨letter :: (sign ++ digits), .some (by simpa using hletter) hsign hfound, ?_⟩
      rw [htext, List.cons_append, List.append_assoc]
    case isFalse =>
      cases h
      exact ⟨[], .none, rfl⟩

theorem written_scanUnsigned {negative : Bool} {numeral : Numeral}
    (h : scanUnsigned negative text = .ok (numeral, rest)) :
    ∃ written, NumeralWritten numeral ((if negative then ['-'] else []) ++ written) ∧
      text = written ++ rest := by
  obtain ⟨⟨whole, afterWhole⟩, hwhole, h⟩ := bind_eq_ok.mp h
  obtain ⟨⟨fraction, afterFraction⟩, hfraction, h⟩ := bind_eq_ok.mp h
  obtain ⟨⟨exponent, afterExponent⟩, hexponent, ⟨⟩⟩ := bind_eq_ok.mp h
  obtain ⟨hdigits, hzero, rfl⟩ := written_scanWhole hwhole
  obtain ⟨places, hplaces, rfl⟩ := written_scanFraction hfraction
  obtain ⟨power, hpower, rfl⟩ := written_scanExponent hexponent
  refine ⟨whole ++ (places ++ power), .intro hdigits hzero hplaces hpower, ?_⟩
  simp only [List.append_assoc]

theorem written_scan {numeral : Numeral} (h : scan text = .ok (numeral, rest)) :
    ∃ written, NumeralWritten numeral written ∧ text = written ++ rest := by
  unfold scan at h
  split at h <;> obtain ⟨written, hwritten, rfl⟩ := written_scanUnsigned h
  · exact ⟨'-' :: written, hwritten, rfl⟩
  · exact ⟨written, hwritten, rfl⟩

end Numeral

/-! ### Strings -/

/-- Whether a text is a piece of a string: a character that needs no escape, or an escape. -/
inductive PieceWritten : Piece → List Char → Prop where
  | char {c : Char} (hquote : c ≠ '"') (hescape : c ≠ '\\') (hcontrol : ¬ c.toNat < 0x20) :
    PieceWritten (.char c) [c]
  | escaped {letter c : Char} (h : Quoted.escaped? letter = some c) :
    PieceWritten (.char c) ['\\', letter]
  | unit {a b c d : Char} {code : Nat} (h : Quoted.unit? a b c d = some code) :
    PieceWritten (.unit code) ['\\', 'u', a, b, c, d]

/-- Whether a text is the pieces of a string and its closing quote. -/
inductive PiecesWritten : List Piece → List Char → Prop where
  | nil : PiecesWritten [] ['"']
  | cons {piece : Piece} {pieces : List Piece} {written rest : List Char}
    (hpiece : PieceWritten piece written) (hpieces : PiecesWritten pieces rest) :
    PiecesWritten (piece :: pieces) (written ++ rest)

namespace Quoted

/-- Whether a text is the pieces of a string, its closing quote and what is left. -/
def ScannedFrom (text : List Char) (scanned : Quoted × List Char) : Prop :=
  ∃ written, PiecesWritten scanned.1.pieces written ∧ text = written ++ scanned.2

theorem ScannedFrom.cons {piece : Piece} {written text : List Char}
    {scanned : Quoted × List Char} (hpiece : PieceWritten piece written)
    (h : ScannedFrom text scanned) : ScannedFrom (written ++ text) (cons piece scanned) := by
  obtain ⟨others, hothers, rfl⟩ := h
  exact ⟨written ++ others, .cons hpiece hothers, (List.append_assoc ..).symm⟩

theorem scannedFrom_scan {text : List Char} (h : (scan text).1.fault = none) :
    ScannedFrom text (scan text) := by
  fun_induction scan text with
  | case1 | case3 | case5 | case6 | case7 | case9 | case10 => cases h
  | case2 rest => exact ⟨['"'], .nil, rfl⟩
  | case4 a b c d rest code hcode ih => exact .cons (.unit hcode) (ih h)
  | case8 letter rest _ _ c hc ih => exact .cons (.escaped hc) (ih h)
  | case11 c rest hquote hend _ _ hescape hcontrol ih =>
    have hbackslash : c ≠ '\\' := fun heq => by
      cases rest with
      | nil => exact hend heq rfl
      | cons next rest => exact hescape next rest heq rfl
    exact .cons (.char hquote hbackslash hcontrol) (ih h)

/-! ### Strings without a fault -/

theorem fault_of_check {string : Quoted} (h : string.check = .ok ()) : string.fault = none := by
  unfold check at h
  split at h
  case h_1 hfault => exact hfault
  case h_2 => cases h

/-- Pieces that end in a fault are not joined. -/
theorem fault_of_join {fault : Option Fault} {pieces : List Piece} {text : List Char}
    (h : join fault pieces = .ok text) : fault = none := by
  fun_induction join fault pieces generalizing text with
  | case1 hfault => exact hfault
  | case2 | case4 | case5 | case6 | case8 => cases h
  | case3 _ _ ih | case7 _ _ _ _ _ _ ih | case9 _ _ _ _ ih =>
    obtain ⟨others, hothers, -⟩ := bind_eq_ok.mp h
    exact ih hothers

theorem fault_of_text {string : Quoted} {text : String} (h : string.text = .ok text) :
    string.fault = none := by
  obtain ⟨joined, hjoined, -⟩ := bind_eq_ok.mp h
  exact fault_of_join hjoined

end Quoted

/-! ### Tokens -/

/-- Whether a text is a token. -/
inductive TokenWritten : Token → List Char → Prop where
  | openList : TokenWritten .openList ['[']
  | closeList : TokenWritten .closeList [']']
  | openObject : TokenWritten .openObject ['{']
  | closeObject : TokenWritten .closeObject ['}']
  | comma : TokenWritten .comma [',']
  | colon : TokenWritten .colon [':']
  | word (word : Word) : TokenWritten (.word (.ok word)) word.letters
  | number {numeral : Numeral} {text : List Char} (h : NumeralWritten numeral text) :
    TokenWritten (.number (.ok numeral)) text
  | string {pieces : List Piece} {text : List Char} (h : PiecesWritten pieces text) :
    TokenWritten (.string ⟨pieces, none⟩) ('"' :: text)

/-- Whether a text is tokens one after the other, with any blanks around them. -/
inductive Spelling : List Token → List Char → Prop where
  | nil {blanks : List Char} (hblanks : ∀ c ∈ blanks, Token.isBlank c = true) : Spelling [] blanks
  | cons {token : Token} {tokens : List Token} {blanks written rest : List Char}
    (hblanks : ∀ c ∈ blanks, Token.isBlank c = true) (htoken : TokenWritten token written)
    (hrest : Spelling tokens rest) : Spelling (token :: tokens) (blanks ++ (written ++ rest))

namespace Token

/-- Whether a token carries no fault. -/
def Faultless : Token → Prop
  | .word result => ∃ word, result = .ok word
  | .number result => ∃ numeral, result = .ok numeral
  | .string quoted => quoted.fault = none
  | .junk => False
  | _ => True

end Token

/-- Whether none of the tokens carries a fault. -/
def Flawless (tokens : List Token) : Prop := ∀ token ∈ tokens, token.Faultless

namespace Token

theorem eq_of_dropLetters {letters text rest : List Char}
    (h : dropLetters letters text = .ok rest) : text = letters ++ rest := by
  fun_induction dropLetters letters text with
  | case1 text => exact Except.ok.inj h
  | case2 | case4 => nomatch h
  | case3 letter letters text ih => rw [ih h, List.cons_append]

/-- Whether a text is a token and what is left. -/
def ScannedFrom (text : List Char) (scanned : Token × List Char) : Prop :=
  ∃ written, TokenWritten scanned.1 written ∧ text = written ++ scanned.2

theorem scannedFrom_scanWord {expected : Word} {text : List Char}
    (h : (scanWord expected text).1.Faultless) : ScannedFrom text (scanWord expected text) := by
  unfold scanWord at h ⊢
  split at h
  case h_1 rest hrest => exact ⟨_, .word expected, eq_of_dropLetters hrest⟩
  case h_2 => nomatch h

theorem scannedFrom_scanNumber {text : List Char} (h : (scanNumber text).1.Faultless) :
    ScannedFrom text (scanNumber text) := by
  unfold scanNumber at h ⊢
  split at h
  case h_1 numeral rest hscan =>
    obtain ⟨written, hwritten, htext⟩ := Numeral.written_scan hscan
    exact ⟨written, .number hwritten, htext⟩
  case h_2 => nomatch h

theorem scannedFrom_quoted {text : List Char} (h : (Quoted.scan text).1.fault = none) :
    ScannedFrom ('"' :: text) (string (Quoted.scan text).1, (Quoted.scan text).2) := by
  obtain ⟨written, hwritten, htext⟩ := Quoted.scannedFrom_scan h
  generalize Quoted.scan text = scanned at h hwritten htext
  obtain ⟨⟨pieces, fault⟩, rest⟩ := scanned
  obtain rfl : fault = none := h
  exact ⟨'"' :: written, .string hwritten, congrArg _ htext⟩

/-- A token without a fault is what it was scanned from. -/
theorem scannedFrom_scanFrom {c : Char} {rest : List Char} (h : (scanFrom c rest).1.Faultless) :
    ScannedFrom (c :: rest) (scanFrom c rest) := by
  unfold scanFrom at h ⊢
  split at h
  · exact ⟨_, .openList, rfl⟩
  · exact ⟨_, .closeList, rfl⟩
  · exact ⟨_, .openObject, rfl⟩
  · exact ⟨_, .closeObject, rfl⟩
  · exact ⟨_, .comma, rfl⟩
  · exact ⟨_, .colon, rfl⟩
  · exact scannedFrom_scanWord h
  · exact scannedFrom_scanWord h
  · exact scannedFrom_scanWord h
  · exact scannedFrom_quoted h
  · split at h
    case isTrue hnumber =>
      rw [if_pos hnumber]
      exact scannedFrom_scanNumber h
    case isFalse => nomatch h

/-- Tokens without a fault were scanned from a text that they spell. -/
theorem spelling_scan {text : List Char} (h : Flawless (scan text)) :
    Spelling (scan text) text := by
  fun_induction scan text with
  | case1 text hend => exact .nil (fun c => List.dropWhile_eq_nil_iff.mp hend c)
  | case2 text c rest hstart ih =>
    obtain ⟨htoken, hrest⟩ := List.forall_mem_cons.mp h
    obtain ⟨written, hwritten, heq⟩ := scannedFrom_scanFrom htoken
    have htext : text = text.takeWhile isBlank ++ (written ++ (scanFrom c rest).2) := by
      rw [← heq, ← hstart, List.takeWhile_append_dropWhile]
    rw [htext]
    exact .cons (fun _ => List.mem_takeWhile_imp) hwritten (ih hrest)

end Token

end ClusterCapacity.Json
