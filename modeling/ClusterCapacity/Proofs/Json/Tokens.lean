import ClusterCapacity.Json.Token
import ClusterCapacity.Proofs.Json.Numeral
import ClusterCapacity.Proofs.Json.Quoted

/-!
# The tokens of a printed value

A value has a list of tokens that follows its structure (`Json.tokens`).  Scanning the compact text
of a value finds these tokens and goes on after them (`scan_compactChars`), so whatever reads tokens
need not know about characters.
-/

namespace ClusterCapacity.Json

/-! ### Tokens of a value -/

mutual

/-- The tokens of a value. -/
def tokens : Json → List Token
  | null => [.word (.ok .null)]
  | bool value => [.word (.ok (if value then .true else .false))]
  | int value => [.number (.ok (.ofInt value))]
  | str text => [.string (.ofText text)]
  | arr [] => [.openList, .closeList]
  | arr (item :: rest) => .openList :: (item.tokens ++ itemTokens rest)
  | obj [] => [.openObject, .closeObject]
  | obj ((name, value) :: rest) =>
    .openObject :: .string (.ofText name) :: .colon :: (value.tokens ++ memberTokens rest)

/-- The tokens of the items after the first one and of the closing bracket. -/
def itemTokens : List Json → List Token
  | [] => [.closeList]
  | item :: rest => .comma :: (item.tokens ++ itemTokens rest)

/-- The tokens of the members after the first one and of the closing brace. -/
def memberTokens : List (String × Json) → List Token
  | [] => [.closeObject]
  | (name, value) :: rest =>
    .comma :: .string (.ofText name) :: .colon :: (value.tokens ++ memberTokens rest)

end

/-! ### Scanning one token -/

namespace Token

theorem scan_nil : scan [] = [] := by
  rw [scan]
  rfl

theorem scan_cons {c : Char} (h : isBlank c = false) (rest : List Char) :
    scan (c :: rest) = (scanFrom c rest).1 :: scan (scanFrom c rest).2 := by
  have hdrop : (c :: rest).dropWhile isBlank = c :: rest := by
    rw [List.dropWhile_cons, h]
    rfl
  rw [scan]
  split
  · rename_i heq
    rw [hdrop] at heq
    exact absurd heq (by simp)
  · rename_i first others heq
    rw [hdrop] at heq
    obtain ⟨rfl, rfl⟩ := List.cons.inj heq
    rfl

/-- A bracket, a comma or a colon is a token by itself. -/
theorem scan_single (c : Char) (token : Token) (rest : List Char) (hblank : isBlank c = false)
    (h : scanFrom c rest = (token, rest)) : scan (c :: rest) = token :: scan rest := by
  rw [scan_cons hblank, h]

theorem scanFrom_of_numeric {c : Char} (h : c = '-' ∨ c.isDigit = true) (rest : List Char) :
    scanFrom c rest = scanNumber (c :: rest) := by
  unfold scanFrom
  -- a letter or bracket that starts another token is neither a sign nor a digit
  split <;> first
    | exact absurd h (by decide)
    | skip
  rw [if_pos]
  simpa using h

theorem isBlank_of_numeric {c : Char} (h : c = '-' ∨ c.isDigit = true) : isBlank c = false := by
  have hblank : ∀ blank ∈ [' ', '\t', '\n', '\r'], c ≠ blank := by
    rintro blank hmem rfl
    simp only [List.mem_cons, List.not_mem_nil, or_false] at hmem
    rcases hmem with rfl | rfl | rfl | rfl <;> exact absurd h (by decide)
  simpa [isBlank, and_assoc] using hblank

/-- Whether a token is a number. -/
def IsNumber : Token → Prop
  | .number _ => True
  | _ => False

/-- The head of a numeral tells it from other tokens. -/
theorem exists_numeric {numeral : Numeral} {written : List Char}
    (h : NumeralWritten numeral written) :
    ∃ c text, written = c :: text ∧ (c = '-' ∨ c.isDigit = true) := by
  obtain @⟨negative, whole, -, -, -, -, hwhole, -, -, -⟩ := h
  cases negative with
  | true => exact ⟨'-', _, rfl, .inl rfl⟩
  | false =>
    obtain ⟨c, digits, rfl⟩ := List.exists_cons_of_ne_nil hwhole.1
    exact ⟨c, _, rfl, .inr (hwhole.2 c List.mem_cons_self)⟩

/-- A token is scanned from its text; a number must not go on. -/
theorem scanFrom_append {token : Token} {written : List Char} (h : TokenWritten token written)
    {rest : List Char} (hrest : token.IsNumber → EndsNumber rest) :
    ∃ c text, written = c :: text ∧ isBlank c = false ∧
      scanFrom c (text ++ rest) = (token, rest) := by
  cases h with
  | openList | closeList | openObject | closeObject | comma | colon =>
    exact ⟨_, [], rfl, rfl, rfl⟩
  | word word => cases word <;> exact ⟨_, _, rfl, rfl, rfl⟩
  | number h =>
    have hscan := Numeral.scan_append h (hrest trivial)
    obtain ⟨c, text, rfl, hc⟩ := exists_numeric h
    rw [List.cons_append] at hscan
    exact ⟨c, text, rfl, isBlank_of_numeric hc, by rw [scanFrom_of_numeric hc, scanNumber, hscan]⟩
  | @string pieces text h =>
    exact ⟨'"', text, rfl, rfl, by simp only [scanFrom, Quoted.scan_append h]⟩

theorem scan_append {token : Token} {written : List Char} (h : TokenWritten token written)
    {rest : List Char} (hrest : token.IsNumber → EndsNumber rest) :
    scan (written ++ rest) = token :: scan rest := by
  obtain ⟨c, text, rfl, hblank, hscan⟩ := scanFrom_append h hrest
  rw [List.cons_append, scan_cons hblank, hscan]

/-- A printed integer is one token. -/
theorem scan_decimal (value : Int) {rest : List Char} (hrest : EndsNumber rest) :
    scan (decimal value ++ rest) = .number (.ok (.ofInt value)) :: scan rest :=
  scan_append (.number (Numeral.numeralWritten_decimal value)) fun _ => hrest

/-- A printed text is one token. -/
theorem scan_quoted (text : String) (rest : List Char) :
    scan (quoted text ++ rest) = .string (.ofText text) :: scan rest :=
  scan_append (.string (Quoted.piecesWritten_escaped text.toList)) nofun

end Token

/-! ### Scanning a value -/

theorem endsNumber_compactItems (items : List Json) (rest : List Char) :
    EndsNumber (compactItems items ++ rest) := by
  cases items <;> exact endsNumber_cons (by decide) _

theorem endsNumber_compactMembers (members : List (String × Json)) (rest : List Char) :
    EndsNumber (compactMembers members ++ rest) := by
  cases members <;> exact endsNumber_cons (by decide) _

mutual

/-- The compact text of a value is scanned as its tokens. -/
theorem scan_compactChars (value : Json) {rest : List Char} (hrest : EndsNumber rest) :
    Token.scan (value.compactChars ++ rest) = value.tokens ++ Token.scan rest := by
  match value with
  | null => exact Token.scan_cons rfl _
  | bool true => exact Token.scan_cons rfl _
  | bool false => exact Token.scan_cons rfl _
  | int value => exact Token.scan_decimal value hrest
  | str text => exact Token.scan_quoted text rest
  | arr [] =>
    have hchars : compactChars (arr []) ++ rest = '[' :: ']' :: rest := rfl
    rw [hchars, Token.scan_single '[' .openList _ rfl rfl,
      Token.scan_single ']' .closeList _ rfl rfl]
    rfl
  | arr (item :: items) =>
    rw [compactChars, List.cons_append, Token.scan_single '[' .openList _ rfl rfl,
      List.append_assoc, scan_compactChars item (endsNumber_compactItems items rest),
      scan_compactItems items hrest, tokens, List.cons_append, List.append_assoc]
  | obj [] =>
    have hchars : compactChars (obj []) ++ rest = '{' :: '}' :: rest := rfl
    rw [hchars, Token.scan_single '{' .openObject _ rfl rfl,
      Token.scan_single '}' .closeObject _ rfl rfl]
    rfl
  | obj ((name, value) :: members) =>
    rw [compactChars, List.cons_append, Token.scan_single '{' .openObject _ rfl rfl,
      List.append_assoc, Token.scan_quoted, List.cons_append,
      Token.scan_single ':' .colon _ rfl rfl, List.append_assoc,
      scan_compactChars value (endsNumber_compactMembers members rest),
      scan_compactMembers members hrest, tokens]
    simp only [List.cons_append, List.append_assoc]

theorem scan_compactItems (items : List Json) {rest : List Char} (hrest : EndsNumber rest) :
    Token.scan (compactItems items ++ rest) = itemTokens items ++ Token.scan rest := by
  match items with
  | [] => exact Token.scan_single ']' .closeList _ rfl rfl
  | item :: items =>
    rw [compactItems, List.cons_append, Token.scan_single ',' .comma _ rfl rfl,
      List.append_assoc, scan_compactChars item (endsNumber_compactItems items rest),
      scan_compactItems items hrest, itemTokens, List.cons_append, List.append_assoc]

theorem scan_compactMembers (members : List (String × Json)) {rest : List Char}
    (hrest : EndsNumber rest) :
    Token.scan (compactMembers members ++ rest) = memberTokens members ++ Token.scan rest := by
  match members with
  | [] => exact Token.scan_single '}' .closeObject _ rfl rfl
  | (name, value) :: members =>
    rw [compactMembers, List.cons_append, Token.scan_single ',' .comma _ rfl rfl,
      List.append_assoc, Token.scan_quoted, List.cons_append,
      Token.scan_single ':' .colon _ rfl rfl, List.append_assoc,
      scan_compactChars value (endsNumber_compactMembers members rest),
      scan_compactMembers members hrest, memberTokens]
    simp only [List.cons_append, List.append_assoc]

end

/-- A printed value is scanned as its tokens and nothing else. -/
theorem scan_compact (value : Json) : Token.scan value.compact.toList = value.tokens := by
  have h := scan_compactChars value endsNumber_nil
  rw [List.append_nil, Token.scan_nil, List.append_nil] at h
  rw [compact, String.toList_ofList, h]

end ClusterCapacity.Json
