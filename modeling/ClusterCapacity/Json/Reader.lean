import ClusterCapacity.Json.Skip
import ClusterCapacity.Wire.DecodeError
import ClusterCapacity.Wire.Format

/-!
# Reading JSON

A reader takes a value from the head of a token list.  Tokens are looked at in document order, so
the first thing that is wrong is the one that is reported, whether it breaks the format or is a
value of another kind than the one asked for.
-/

namespace ClusterCapacity.Json

open Wire

/-- A way of reading an `α` from the head of a token list. -/
def Reader (α : Type) : Type := List Token → Except DecodeError (α × List Token)

namespace Reader

variable {α : Type}

/-- A step that can only break the format. -/
def ofFault : Except Fault α → Except DecodeError α
  | .ok value => .ok value
  | .error fault => .error (.json fault)

/-- The value that starts with a token. -/
def found : Token → Except Fault Found
  | .openList => .ok .sequence
  | .openObject => .ok .map
  | .word word => do
    match ← word with
    | .null => .ok .null
    | .true => .ok (.bool true)
    | .false => .ok (.bool false)
  | .number numeral => do
    match ← (← numeral).value with
    | .integer value => .ok (.integer value)
    | .floating value => .ok (.floating value)
  | .string string => do .ok (.string (← string.text))
  | _ => .error .expectedValue

/-- The error of a token that does not start what is expected. -/
def mismatch (expected : String) (token : Token) : DecodeError :=
  match found token with
  | .ok found => .unexpected found expected
  | .error fault => .json fault

/-! ### Single values -/

/-- Reads a 64-bit number. -/
def int64 : Reader Int64
  | [] => .error (.json .endInValue)
  | .number (.ok numeral) :: rest => do
    match ← ofFault numeral.value with
    | .integer value =>
      if Decimal.fitsInt64 value then .ok (Int64.ofInt value, rest)
      else .error (.outOfRange (.integer value) "i64")
    | .floating value => .error (.unexpected (.floating value) "i64")
  | token :: _ => .error (mismatch "i64" token)

/-- Reads a string where something else may be expected. -/
def string (expected : String) : Reader String
  | [] => .error (.json .endInValue)
  | .string string :: rest => do .ok (← ofFault string.text, rest)
  | token :: _ => .error (mismatch expected token)

/-- Reads a text. -/
def text : Reader String := string "a string"

/-- Reads `null` or a value. -/
def optional (read : Reader α) : Reader (Option α)
  | .word (.ok .null) :: rest => .ok (none, rest)
  | tokens => do
    let (value, rest) ← read tokens
    .ok (some value, rest)

/-- Reads `null`. -/
def unit : Reader Unit
  | [] => .error (.json .endInValue)
  | .word (.ok .null) :: rest => .ok ((), rest)
  | token :: _ => .error (mismatch "unit" token)

/-! ### Lists -/

/-- Goes to the next item of a list; `none` at the closing bracket. -/
def nextItem (first : Bool) : List Token → Except Fault (Option (List Token))
  | [] => .error .endInList
  | .closeList :: _ => .ok none
  | token :: rest =>
    if first then .ok (some (token :: rest))
    else
      match token, rest with
      | .comma, [] => .error .endInValue
      | .comma, .closeList :: _ => .error .trailingComma
      | .comma, rest => .ok (some rest)
      | _, _ => .error .expectedListCommaOrEnd

/-- Takes the closing bracket of a list. -/
def closeList : List Token → Except Fault (List Token)
  | [] => .error .endInList
  | .closeList :: rest => .ok rest
  | .comma :: .closeList :: _ => .error .trailingComma
  | _ => .error .trailingCharacters

/-- Reads the items of a list up to its closing bracket, at most `fuel` of them. -/
def items (read : Reader α) : Nat → Bool → Reader (List α)
  | 0, _, _ => .error (.json .endInList)
  | fuel + 1, first, tokens => do
    match ← ofFault (nextItem first tokens) with
    | none => .ok ([], tokens)
    | some tokens =>
      let (item, tokens) ← read tokens
      let (rest, tokens) ← items read fuel false tokens
      .ok (item :: rest, tokens)

/-- Reads a list; every item takes a token, so their number is enough fuel. -/
def list (read : Reader α) : Reader (List α)
  | [] => .error (.json .endInValue)
  | .openList :: rest => do
    let (values, rest) ← items read (rest.length + 1) true rest
    .ok (values, ← ofFault (closeList rest))
  | token :: _ => .error (mismatch "a sequence" token)

/-! ### Objects -/

/-- Takes the name of a member. -/
def memberName : List Token → Except Fault (String × List Token)
  | .string string :: rest => do .ok (← string.text, rest)
  | _ => .error .keyNotString

/-- Goes to the next member of an object and takes its name; `none` at the closing brace. -/
def nextMember (first : Bool) : List Token → Except Fault (Option (String × List Token))
  | [] => .error .endInObject
  | .closeObject :: _ => .ok none
  | token :: rest =>
    if first then some <$> memberName (token :: rest)
    else
      match token, rest with
      | .comma, [] => .error .endInValue
      | .comma, .closeObject :: _ => .error .trailingComma
      | .comma, rest => some <$> memberName rest
      | _, _ => .error .expectedObjectCommaOrEnd

/-- Takes the colon after a member's name. -/
def colon : List Token → Except Fault (List Token)
  | [] => .error .endInObject
  | .colon :: rest => .ok rest
  | _ => .error .expectedColon

/-- Takes the closing brace of an object. -/
def closeObject : List Token → Except Fault (List Token)
  | [] => .error .endInObject
  | .closeObject :: rest => .ok rest
  | _ => .error .trailingCharacters

/-- Reads the members of an object up to its closing brace, at most `fuel` of them. -/
def members (read : Reader α) : Nat → Bool → Reader (List (String × α))
  | 0, _, _ => .error (.json .endInObject)
  | fuel + 1, first, tokens => do
    match ← ofFault (nextMember first tokens) with
    | none => .ok ([], tokens)
    | some (name, tokens) =>
      let (value, tokens) ← read (← ofFault (colon tokens))
      let (rest, tokens) ← members read fuel false tokens
      .ok ((name, value) :: rest, tokens)

/-- Reads an object as a map. -/
def entries (expected : String) (read : Reader α) : Reader (List (String × α))
  | [] => .error (.json .endInValue)
  | .openObject :: rest => do
    let (pairs, rest) ← members read (rest.length + 1) true rest
    .ok (pairs, ← ofFault (closeObject rest))
  | token :: _ => .error (mismatch expected token)

/-! ### Choices -/

/-- Reads the name of one of the choices. -/
def choiceName (choices : List (String × α)) : Reader α := fun tokens => do
  let (name, rest) ← string "variant identifier" tokens
  match choices.lookup name with
  | some value => .ok (value, rest)
  | none => .error (.unknownChoice name (choices.map Prod.fst))

/-- Reads a choice: its name, or an object with its name and `null`. -/
def choice (choices : List (String × α)) : Reader α
  | [] => .error (.json .endInValue)
  | .string string :: rest => choiceName choices (.string string :: rest)
  | .openObject :: rest => do
    let (value, rest) ← choiceName choices rest
    let (_, rest) ← unit (← ofFault (colon rest))
    match rest with
    | .closeObject :: rest => .ok (value, rest)
    | [] => .error (.json .endInObject)
    | _ => .error (.json .expectedValue)
  | _ => .error (.json .expectedValue)

/-! ### Records -/

variable {σ : Type}

/-- Reads the members of a record by name into a draft; unknown members are skipped and a known one
is given once. -/
def namedFields (record : Record Reader σ α) : Nat → Bool → σ → Reader σ
  | 0, _, _, _ => .error (.json .endInObject)
  | fuel + 1, first, draft, tokens => do
    match ← ofFault (nextMember first tokens) with
    | none => .ok (draft, tokens)
    | some (name, tokens) =>
      match record.field? name with
      | none =>
        let tokens ← ofFault (colon tokens >>= skip)
        namedFields record fuel false draft tokens
      | some field =>
        if field.isGiven draft then .error (.duplicateField field.name)
        else
          let (update, tokens) ← field.read (← ofFault (colon tokens))
          namedFields record fuel false (update draft) tokens

/-- Reads the members of a record by place into a draft; `index` of them have been read. -/
def placedFields (title : String) : List (Field Reader σ) → Nat → σ → Reader σ
  | [], _, draft, tokens => .ok (draft, tokens)
  | field :: fields, index, draft, tokens => do
    match ← ofFault (nextItem (index = 0) tokens) with
    | some tokens =>
      let (update, tokens) ← field.read tokens
      placedFields title fields (index + 1) (update draft) tokens
    | none =>
      if field.mayBeAbsent then placedFields title fields index draft tokens
      else .error (.tooShort index title)

/-- Completes a draft. -/
def finish (record : Record Reader σ α) (draft : σ) : Except DecodeError α :=
  match record.finish draft with
  | .ok value => .ok value
  | .error name => .error (.missingField name)

/-- Reads a record from an object, or from a list of its members in order. -/
def record (record : Record Reader σ α) : Reader α
  | [] => .error (.json .endInValue)
  | .openObject :: rest => do
    let (draft, rest) ← namedFields record (rest.length + 1) true record.blank rest
    let value ← finish record draft
    .ok (value, ← ofFault (closeObject rest))
  | .openList :: rest => do
    let (draft, rest) ← placedFields record.listTitle record.fields 0 record.blank rest
    let value ← finish record draft
    .ok (value, ← ofFault (closeList rest))
  | token :: _ => .error (mismatch record.title token)

end Reader

instance : Functor Reader where
  map f read := fun tokens => do
    let (value, rest) ← read tokens
    .ok (f value, rest)

instance : Format Reader where
  int64 := Reader.int64
  text := Reader.text
  optional := Reader.optional
  list := Reader.list
  entries := Reader.entries
  choice := Reader.choice
  record := Reader.record

/-- Reads a whole text. -/
def decode {α : Type} (read : Reader α) (text : String) : Except DecodeError α := do
  let (value, rest) ← read (Token.scan text.toList)
  if rest.isEmpty then .ok value else .error (.json .trailingCharacters)

end ClusterCapacity.Json
