/-!
# Punycode

A label of a domain name is written in ASCII as its basic characters, a hyphen, and a string of
digits in base 36 that say which other characters go where.
-/

namespace ClusterCapacity.Url.Punycode

/-- The base of the digits. -/
def base : Nat := 36

/-- The threshold of the digit that follows `passed` in a number. -/
def threshold (bias passed : Nat) : Nat :=
  if passed ≤ bias then 1 else if bias + 26 ≤ passed then 26 else passed - bias

/-- Divides a delta until it is small; the number of divisions times the base is added up. -/
def reduce (fuel delta passed : Nat) : Nat :=
  match fuel with
  | 0 => passed
  | fuel + 1 => if 455 < delta then reduce fuel (delta / 35) (passed + base)
      else passed + 36 * delta / (delta + 38)

/-- The bias after a delta; `count` characters have been placed. -/
def adapt (delta count : Nat) (first : Bool) : Nat :=
  let delta := if first then delta / 700 else delta / 2
  reduce 32 (delta + delta / count) 0

/-- The character of a digit. -/
def digit (value : Nat) : Char :=
  if value < 26 then Char.ofNat ('a'.toNat + value) else Char.ofNat ('0'.toNat + (value - 26))

/-- The value of a digit. -/
def digitValue? (c : Char) : Option Nat :=
  if 'a' ≤ c ∧ c ≤ 'z' then some (c.toNat - 'a'.toNat)
  else if 'A' ≤ c ∧ c ≤ 'Z' then some (c.toNat - 'A'.toNat)
  else if '0' ≤ c ∧ c ≤ '9' then some (c.toNat - '0'.toNat + 26)
  else none

/-! ### Encoding -/

/-- The digits of a delta; each step divides, so the delta itself is enough fuel. -/
def encodeDelta (bias passed : Nat) : Nat → Nat → List Char
  | 0, _ => []
  | fuel + 1, value =>
    let limit := threshold bias passed
    if value < limit then [digit value]
    else
      digit (limit + (value - limit) % (base - limit))
        :: encodeDelta bias (passed + base) fuel ((value - limit) / (base - limit))

/-- What is known while a label is encoded. -/
structure Encoder where
  delta : Nat := 0
  bias : Nat := 72
  /-- How many characters have been placed. -/
  placed : Nat
  basics : Nat
  /-- The digits so far, reversed by delta. -/
  output : List (List Char) := []

/-- Goes over the label for the characters of code point `code`. -/
def encodeCode (code : Nat) (encoder : Encoder) (c : Char) : Encoder :=
  if c.toNat < code then { encoder with delta := encoder.delta + 1 }
  else if c.toNat = code then
    { encoder with
      output := encodeDelta encoder.bias base (encoder.delta + 1) encoder.delta :: encoder.output
      bias := adapt encoder.delta (encoder.placed + 1) (encoder.placed = encoder.basics)
      delta := 0
      placed := encoder.placed + 1 }
  else encoder

/-- Places the characters of the code points in ascending order, above `last`. -/
def encodeCodes (label : List Char) (last : Nat) (encoder : Encoder) : List Nat → Encoder
  | [] => encoder
  | code :: codes =>
    let skipped := (code - last) * (encoder.placed + 1)
    let encoder := { encoder with delta := encoder.delta + skipped }
    let encoder := label.foldl (encodeCode code) encoder
    encodeCodes label (code + 1) { encoder with delta := encoder.delta + 1 } codes

/-- The code points beyond ASCII in a label, ascending and each once. -/
def codes (label : List Char) : List Nat :=
  ((label.map Char.toNat).filter (0x80 ≤ ·)).mergeSort.eraseDups

/-- The ASCII form of a label. -/
def encode (label : List Char) : List Char :=
  let basic := label.filter (fun c => c.toNat < 0x80)
  let encoder := encodeCodes label 0x80 { placed := basic.length, basics := basic.length }
    (codes label)
  (if basic.isEmpty then [] else basic ++ ['-']) ++ encoder.output.reverse.flatten

/-! ### Decoding -/

/-- Reads a delta: its value and the digits after it. -/
def decodeDelta (bias passed weight value : Nat) : List Char → Option (Nat × List Char)
  | [] => none
  | c :: rest => do
    let read ← digitValue? c
    let limit := threshold bias passed
    let value := value + read * weight
    if UInt32.size ≤ value then none
    else if read < limit then some (value, rest)
    else decodeDelta bias (passed + base) (weight * (base - limit)) value rest

/-- Places the characters that the digits stand for, at most `fuel` of them. -/
def decodeDeltas (basics : Nat) : Nat → Nat → Nat → Nat → List Char → List Char →
    Option (List Char)
  | _, _, _, _, label, [] => some label
  | 0, _, _, _, _, _ => none
  | fuel + 1, code, index, bias, label, digits => do
    let (delta, digits) ← decodeDelta bias base 1 0 digits
    let size := label.length + 1
    let target := index + delta
    let code := code + target / size
    if code.isValidChar then
      let index := target % size
      let label := label.take index ++ Char.ofNat code :: label.drop index
      decodeDeltas basics fuel code (index + 1) (adapt delta size (size = basics + 1)) label digits
    else none

/-- The label of an ASCII form. -/
def decode (text : List Char) : Option (List Char) :=
  let reversed := text.reverse
  let (basic, digits) :=
    if text.contains '-' then
      (((reversed.dropWhile (· ≠ '-')).drop 1).reverse, (reversed.takeWhile (· ≠ '-')).reverse)
    else ([], text)
  if basic.all (fun c => c.toNat < 0x80) then
    decodeDeltas basic.length digits.length 0x80 0 72 basic digits
  else none

end ClusterCapacity.Url.Punycode
