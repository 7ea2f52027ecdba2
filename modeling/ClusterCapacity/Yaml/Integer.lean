import ClusterCapacity.Yaml.Scalar

/-!
# Integers in YAML texts

An integer is decimal, without zeros in front, or it is written in base 16, 8 or 2 after `0x`, `0o`
or `0b`; a sign comes before that.
-/

namespace ClusterCapacity.Yaml.Integer

/-- The value of a digit in the given base. -/
def digit? (base : Nat) (c : Char) : Option Nat :=
  match hexDigit? c with
  | some value => if value < base then some value else none
  | none => none

/-- The value of a list of digits, of which there has to be one. -/
def digits? (base : Nat) (digits : List Char) : Option Nat :=
  if digits.isEmpty then none
  else digits.foldlM (fun value c => (digit? base c).map (base * value + ·)) 0

/-- The value of digits that may be decimal or have a base in front. -/
def magnitude? : List Char → Option Nat
  | '0' :: 'x' :: digits => digits? 16 digits
  | '0' :: 'o' :: digits => digits? 8 digits
  | '0' :: 'b' :: digits => digits? 2 digits
  | '0' :: _ :: _ => none
  | digits => digits? 10 digits

/-- The integer that a text denotes, if it denotes one. -/
def ofText? : List Char → Option Int
  | '-' :: digits => (magnitude? digits).map (fun value => -(value : Int))
  | '+' :: digits => (magnitude? digits).map Int.ofNat
  | digits => (magnitude? digits).map Int.ofNat

end ClusterCapacity.Yaml.Integer
