import ClusterCapacity.Json.Fault

/-!
# Strings in JSON texts

A string is first split into pieces: characters, plain or escaped by a letter, and the UTF-16 code
units that are escaped by four digits.  `Quoted.text` joins the units to characters; a place where
only well-formedness matters stops at the pieces.
-/

namespace ClusterCapacity.Json

/-- A part of a string. -/
inductive Piece where
  | char (c : Char)
  | unit (code : Nat)
deriving DecidableEq, Repr

/-- The pieces of a string up to its closing quote, or up to a fault. -/
structure Quoted where
  pieces : List Piece
  fault : Option Fault := none
deriving DecidableEq, Repr

namespace Quoted

/-! ### Scanning -/

/-- The value of a hexadecimal digit of either case. -/
def hexValue? (c : Char) : Option Nat :=
  if '0' ≤ c ∧ c ≤ '9' then some (c.toNat - '0'.toNat)
  else if 'a' ≤ c ∧ c ≤ 'f' then some (c.toNat - 'a'.toNat + 10)
  else if 'A' ≤ c ∧ c ≤ 'F' then some (c.toNat - 'A'.toNat + 10)
  else none

/-- The code unit of four hexadecimal digits. -/
def unit? (a b c d : Char) : Option Nat := do
  return ((16 * (← hexValue? a) + (← hexValue? b)) * 16 + (← hexValue? c)) * 16 + (← hexValue? d)

/-- The character that a letter after the backslash stands for. -/
def escaped? : Char → Option Char
  | '"' => some '"'
  | '\\' => some '\\'
  | '/' => some '/'
  | 'b' => some '\x08'
  | 'f' => some '\x0c'
  | 'n' => some '\n'
  | 'r' => some '\r'
  | 't' => some '\t'
  | _ => none

/-- The string with one more piece in front. -/
def cons (piece : Piece) (scanned : Quoted × List Char) : Quoted × List Char :=
  ({ scanned.1 with pieces := piece :: scanned.1.pieces }, scanned.2)

/-- A string that breaks off at once. -/
def broken (fault : Fault) : Quoted × List Char := (⟨[], some fault⟩, [])

/-- Splits the text after an opening quote into the string and what follows its closing quote.
After four bytes a code unit is wrong, with fewer it is unfinished. -/
def scan : List Char → Quoted × List Char
  | [] => broken .endInString
  | '"' :: rest => (⟨[], none⟩, rest)
  | '\\' :: [] => broken .endInString
  | '\\' :: 'u' :: a :: b :: c :: d :: rest =>
    match unit? a b c d with
    | some code => cons (.unit code) (scan rest)
    | none => broken .badHexEscape
  | '\\' :: 'u' :: rest =>
    if 4 ≤ rest.foldl (fun size c => size + c.utf8Size) 0 then broken .badHexEscape
    else broken .endInString
  | '\\' :: c :: rest =>
    match escaped? c with
    | some c => cons (.char c) (scan rest)
    | none => broken .unknownEscape
  | c :: rest =>
    if c.toNat < 0x20 then broken .controlCharacter else cons (.char c) (scan rest)

theorem length_scan (text : List Char) : (scan text).2.length ≤ text.length := by
  fun_induction scan text <;>
    simp_all only [broken, cons, List.length_cons, List.length_nil] <;> omega

/-! ### Joining code units -/

/-- Whether a code unit is the first of a surrogate pair. -/
def isLeading (code : Nat) : Bool := 0xD800 ≤ code && code < 0xDC00

/-- Whether a code unit is the second of a surrogate pair. -/
def isTrailing (code : Nat) : Bool := 0xDC00 ≤ code && code < 0xE000

/-- The character of a surrogate pair. -/
def paired (leading trailing : Nat) : Char :=
  Char.ofNat (0x10000 + (leading - 0xD800) * 0x400 + (trailing - 0xDC00))

/-- What is wrong with a leading surrogate that ends the pieces. -/
def unpaired : Option Fault → Fault
  | some .endInString => .endInString
  | some .badHexEscape => .badHexEscape
  | _ => .unpairedSurrogate

/-- Joins pieces that end in the given fault. -/
def join (fault : Option Fault) : List Piece → Except Fault (List Char)
  | [] =>
    match fault with
    | none => .ok []
    | some fault => .error fault
  | .char c :: rest => do .ok (c :: (← join fault rest))
  | .unit code :: rest =>
    if isTrailing code then .error .loneSurrogate
    else if isLeading code then
      match rest with
      | [] => .error (unpaired fault)
      | .char _ :: _ => .error .unpairedSurrogate
      | .unit next :: rest =>
        if isTrailing next then do .ok (paired code next :: (← join fault rest))
        else .error .loneSurrogate
    else do .ok (Char.ofNat code :: (← join fault rest))

/-- The text of the string. -/
def text (string : Quoted) : Except Fault String := do
  .ok (String.ofList (← join string.fault string.pieces))

/-- Nothing but the fault, where the text does not matter. -/
def check (string : Quoted) : Except Fault Unit :=
  match string.fault with
  | none => .ok ()
  | some fault => .error fault

end Quoted

end ClusterCapacity.Json
