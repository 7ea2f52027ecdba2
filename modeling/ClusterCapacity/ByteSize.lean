import ClusterCapacity.Decimal.Binary64

/-!
# Human readable byte counts

A count of at most five of the next unit keeps its unit, so 5120 bytes are `5120B` and 5121 bytes
are `5.00KB`.  The scaled number has two decimals, rounded half to even, of the binary64 value
nearest to the count; negative counts are plain bytes.
-/

namespace ClusterCapacity

/-- The units of a scaled count, in powers of 1024. -/
inductive SizeUnit where
  | kilo | mega | giga | tera | peta
deriving DecidableEq, Repr

namespace SizeUnit

/-- The symbol written after the number. -/
def symbol : SizeUnit → String
  | kilo => "KB"
  | mega => "MB"
  | giga => "GB"
  | tera => "TB"
  | peta => "PB"

/-- The power of 1024 that the unit stands for. -/
def power : SizeUnit → Nat
  | kilo => 1
  | mega => 2
  | giga => 3
  | tera => 4
  | peta => 5

/-- The bytes in one unit. -/
def bytes (unit : SizeUnit) : Nat := Nat.pow 1024 unit.power

/-- The smallest unit of which the count is at most 5120, the largest when there is none. -/
def ofCount (count : Nat) : SizeUnit :=
  if count ≤ 5120 * kilo.bytes then kilo
  else if count ≤ 5120 * mega.bytes then mega
  else if count ≤ 5120 * giga.bytes then giga
  else if count ≤ 5120 * tera.bytes then tera
  else peta

end SizeUnit

namespace ByteSize

open Decimal

/-- Hundredths of `unit` in `count`, rounded half to even. -/
def hundredths (unit : SizeUnit) (count : Nat) : Nat :=
  roundHalfEven (100 * count) unit.bytes

/-- The text of `h` hundredths of `unit`. -/
def scaledText (unit : SizeUnit) (h : Nat) : String :=
  toString (h / 100) ++ "." ++ paddedDigits 2 (h % 100) ++ unit.symbol

/-- The text of a byte count. -/
def format (bytes : Int64) : String :=
  if bytes ≤ 5120 then toString bytes.toInt ++ "B"
  else
    let count := nearestDouble bytes.toInt.toNat
    let unit := SizeUnit.ofCount count
    scaledText unit (hundredths unit count)

end ByteSize

end ClusterCapacity
