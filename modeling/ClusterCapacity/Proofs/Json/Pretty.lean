import ClusterCapacity.Proofs.Json.Reader

/-!
# The lines of a printed value

The text of a value over several lines has the tokens of its compact text (`scan_pretty`): the line
breaks and the indentation stand between tokens, where scanning passes over them.  So whatever is
read from the compact text of a value is read from its lines too (`decode_pretty`).
-/

namespace ClusterCapacity.Json

/-! ### Blanks between tokens -/

theorem Token.scan_blank {c : Char} (h : isBlank c = true) (rest : List Char) :
    scan (c :: rest) = scan rest := by
  have hdrop : (c :: rest).dropWhile isBlank = rest.dropWhile isBlank := by
    rw [List.dropWhile_cons, if_pos h]
  rw [scan, hdrop, ← scan]

theorem Token.scan_spaces (count : Nat) (rest : List Char) :
    scan (List.replicate count ' ' ++ rest) = scan rest := by
  induction count with
  | zero => rfl
  | succ count ih => rw [List.replicate_succ, List.cons_append, scan_blank rfl, ih]

theorem Token.scan_newline (depth : Nat) (rest : List Char) :
    scan (newline depth ++ rest) = scan rest := by
  rw [newline, List.cons_append, scan_blank rfl, scan_spaces]

theorem endsNumber_newline (depth : Nat) (rest : List Char) :
    EndsNumber (newline depth ++ rest) := by
  intro c hc
  obtain rfl : '\n' = c := by simpa [newline] using hc
  decide

theorem endsNumber_prettyItems (depth : Nat) (items : List Json) (rest : List Char) :
    EndsNumber (prettyItems depth items ++ rest) := by
  cases items with
  | nil =>
    rw [prettyItems, List.append_assoc]
    exact endsNumber_newline depth _
  | cons item items => exact endsNumber_cons (by decide) _

theorem endsNumber_prettyMembers (depth : Nat) (members : List (String × Json))
    (rest : List Char) : EndsNumber (prettyMembers depth members ++ rest) := by
  cases members with
  | nil =>
    rw [prettyMembers, List.append_assoc]
    exact endsNumber_newline depth _
  | cons member members => exact endsNumber_cons (by decide) _

/-! ### Scanning the lines of a value -/

mutual

/-- The lines of a value are scanned as its tokens. -/
theorem scan_prettyChars (depth : Nat) (value : Json) {rest : List Char}
    (hrest : EndsNumber rest) :
    Token.scan (value.prettyChars depth ++ rest) = value.tokens ++ Token.scan rest := by
  match value with
  | null => exact Token.scan_cons rfl _
  | bool true => exact Token.scan_cons rfl _
  | bool false => exact Token.scan_cons rfl _
  | int value => exact Token.scan_decimal value hrest
  | str text => exact Token.scan_quoted text rest
  | arr [] =>
    have hchars : prettyChars depth (arr []) ++ rest = '[' :: ']' :: rest := rfl
    rw [hchars, Token.scan_single '[' .openList _ rfl rfl,
      Token.scan_single ']' .closeList _ rfl rfl]
    rfl
  | arr (item :: items) =>
    rw [prettyChars, List.cons_append, Token.scan_single '[' .openList _ rfl rfl,
      List.append_assoc, List.append_assoc, Token.scan_newline,
      scan_prettyChars (depth + 1) item (endsNumber_prettyItems depth items rest),
      scan_prettyItems depth items hrest, tokens, List.cons_append, List.append_assoc]
  | obj [] =>
    have hchars : prettyChars depth (obj []) ++ rest = '{' :: '}' :: rest := rfl
    rw [hchars, Token.scan_single '{' .openObject _ rfl rfl,
      Token.scan_single '}' .closeObject _ rfl rfl]
    rfl
  | obj ((name, value) :: members) =>
    rw [prettyChars, List.cons_append, Token.scan_single '{' .openObject _ rfl rfl,
      List.append_assoc, List.append_assoc, Token.scan_newline, Token.scan_quoted,
      List.cons_append, Token.scan_single ':' .colon _ rfl rfl, List.cons_append,
      Token.scan_blank rfl, List.append_assoc,
      scan_prettyChars (depth + 1) value (endsNumber_prettyMembers depth members rest),
      scan_prettyMembers depth members hrest, tokens]
    simp only [List.cons_append, List.append_assoc]

theorem scan_prettyItems (depth : Nat) (items : List Json) {rest : List Char}
    (hrest : EndsNumber rest) :
    Token.scan (prettyItems depth items ++ rest) = itemTokens items ++ Token.scan rest := by
  match items with
  | [] =>
    rw [prettyItems, List.append_assoc, Token.scan_newline]
    exact Token.scan_single ']' .closeList _ rfl rfl
  | item :: items =>
    rw [prettyItems, List.cons_append, Token.scan_single ',' .comma _ rfl rfl,
      List.append_assoc, List.append_assoc, Token.scan_newline,
      scan_prettyChars (depth + 1) item (endsNumber_prettyItems depth items rest),
      scan_prettyItems depth items hrest, itemTokens, List.cons_append, List.append_assoc]

theorem scan_prettyMembers (depth : Nat) (members : List (String × Json)) {rest : List Char}
    (hrest : EndsNumber rest) :
    Token.scan (prettyMembers depth members ++ rest)
      = memberTokens members ++ Token.scan rest := by
  match members with
  | [] =>
    rw [prettyMembers, List.append_assoc, Token.scan_newline]
    exact Token.scan_single '}' .closeObject _ rfl rfl
  | (name, value) :: members =>
    rw [prettyMembers, List.cons_append, Token.scan_single ',' .comma _ rfl rfl,
      List.append_assoc, List.append_assoc, Token.scan_newline, Token.scan_quoted,
      List.cons_append, Token.scan_single ':' .colon _ rfl rfl, List.cons_append,
      Token.scan_blank rfl, List.append_assoc,
      scan_prettyChars (depth + 1) value (endsNumber_prettyMembers depth members rest),
      scan_prettyMembers depth members hrest, memberTokens]
    simp only [List.cons_append, List.append_assoc]

end

/-- The lines of a value are scanned as its tokens and nothing else. -/
theorem scan_pretty (value : Json) : Token.scan value.pretty.toList = value.tokens := by
  have h := scan_prettyChars 0 value endsNumber_nil
  rw [List.append_nil, Token.scan_nil, List.append_nil] at h
  rw [pretty, String.toList_ofList, h]

/-- A reader that takes the tokens of a value decodes its lines. -/
theorem decode_pretty {α : Type} {read : Reader α} {value : α} {json : Json}
    (h : Reads read value json.tokens) : decode read json.pretty = .ok value := by
  have hread := h []
  rw [List.append_nil] at hread
  simp only [decode, scan_pretty, hread, bind, Except.bind, List.isEmpty_nil, ↓reduceIte]

end ClusterCapacity.Json
