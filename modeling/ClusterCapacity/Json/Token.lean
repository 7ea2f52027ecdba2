import ClusterCapacity.Json.Numeral
import ClusterCapacity.Json.Quoted

/-!
# The tokens of a JSON text

`Token.scan` splits a text into tokens without looking at how they nest.  A token may carry a
fault, and a character that starts no token is one of its own; scanning ends with either, because
no reader goes on after it.
-/

namespace ClusterCapacity.Json

/-- A value that is written as a word. -/
inductive Word where
  | null | true | false
deriving DecidableEq, Repr

/-- The letters of a word. -/
def Word.letters : Word → List Char
  | null => "null".toList
  | true => "true".toList
  | false => "false".toList

/-- A token of a JSON text. -/
inductive Token where
  | openList
  | closeList
  | openObject
  | closeObject
  | comma
  | colon
  | word (word : Except Fault Word)
  | number (numeral : Except Fault Numeral)
  | string (string : Quoted)
  | junk
deriving Repr

namespace Token

/-- The white space of JSON. -/
def isBlank (c : Char) : Bool := c = ' ' || c = '\t' || c = '\n' || c = '\r'

/-- Takes the given letters off a text. -/
def dropLetters : List Char → List Char → Except Fault (List Char)
  | [], text => .ok text
  | _ :: _, [] => .error .endInValue
  | letter :: letters, c :: text =>
    if c = letter then dropLetters letters text else .error .expectedLiteral

/-- A word of which the first letter has been seen. -/
def scanWord (expected : Word) (text : List Char) : Token × List Char :=
  match dropLetters expected.letters text with
  | .ok rest => (word (.ok expected), rest)
  | .error fault => (word (.error fault), [])

/-- The number at the head of a text. -/
def scanNumber (text : List Char) : Token × List Char :=
  match Numeral.scan text with
  | .ok (numeral, rest) => (number (.ok numeral), rest)
  | .error fault => (number (.error fault), [])

/-- The token that starts with `c`, and the text after it. -/
def scanFrom (c : Char) (rest : List Char) : Token × List Char :=
  match c with
  | '[' => (openList, rest)
  | ']' => (closeList, rest)
  | '{' => (openObject, rest)
  | '}' => (closeObject, rest)
  | ',' => (comma, rest)
  | ':' => (colon, rest)
  | 'n' => scanWord .null (c :: rest)
  | 't' => scanWord .true (c :: rest)
  | 'f' => scanWord .false (c :: rest)
  | '"' => let (quoted, rest) := Quoted.scan rest; (string quoted, rest)
  | c => if c = '-' || c.isDigit then scanNumber (c :: rest) else (junk, [])

/-! ### A token is not empty -/

theorem length_dropLetters {letters text rest : List Char}
    (h : dropLetters letters text = .ok rest) : text.length = letters.length + rest.length := by
  induction letters generalizing text with
  | nil => simp_all [dropLetters]
  | cons letter letters ih =>
    cases text with
    | nil => simp [dropLetters] at h
    | cons c text =>
      simp only [dropLetters] at h
      split at h
      · have := ih h
        simp only [List.length_cons]
        omega
      · simp at h

theorem length_scanWord (expected : Word) (c : Char) (rest : List Char) :
    (scanWord expected (c :: rest)).2.length ≤ rest.length := by
  simp only [scanWord]
  split
  · rename_i h
    have := length_dropLetters h
    have : 0 < expected.letters.length := by cases expected <;> decide
    simp_all only [List.length_cons]
    omega
  · simp

theorem length_scanNumber (c : Char) (rest : List Char) :
    (scanNumber (c :: rest)).2.length ≤ rest.length := by
  simp only [scanNumber]
  split
  · rename_i h
    have := Numeral.length_scan h
    simp only [List.length_cons] at this ⊢
    omega
  · simp

theorem length_scanFrom (c : Char) (rest : List Char) :
    (scanFrom c rest).2.length ≤ rest.length := by
  unfold scanFrom
  split <;> first
    | exact Nat.le_refl _
    | exact length_scanWord _ _ _
    | exact Quoted.length_scan _
    | skip
  split
  · exact length_scanNumber _ _
  · simp

/-! ### The whole text -/

/-- The tokens of a text. -/
def scan (text : List Char) : List Token :=
  match _h : text.dropWhile isBlank with
  | [] => []
  | c :: rest => (scanFrom c rest).1 :: scan (scanFrom c rest).2
termination_by text.length
decreasing_by
  have := length_scanFrom c rest
  have hlen := congrArg List.length (List.takeWhile_append_dropWhile (p := isBlank) (l := text))
  rw [List.length_append, _h, List.length_cons] at hlen
  omega

end Token

end ClusterCapacity.Json
