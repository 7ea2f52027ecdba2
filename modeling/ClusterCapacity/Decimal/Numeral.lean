import ClusterCapacity.Decimal.Floating

/-!
# Decimal numerals

A numeral has an optional sign, digits with at most one point among them, and optionally an exponent
of ten.  Its value is the binary64 number nearest to it, which may be infinite.
-/

namespace ClusterCapacity.Decimal

/-- The parts of a numeral without its sign. -/
structure Numeral where
  whole : List Char
  fraction : List Char
  exponent : Int
deriving DecidableEq, Repr

/-- The value of a list of digits. -/
def digitsValue (digits : List Char) : Nat :=
  digits.foldl (fun value c => 10 * value + (c.toNat - 48)) 0

/-- The exponent that a numeral ends with. -/
def exponent? : List Char → Option Int
  | [] => some 0
  | mark :: rest =>
    let (negative, digits) : Bool × List Char := match rest with
      | '-' :: digits => (true, digits)
      | '+' :: digits => (false, digits)
      | digits => (false, digits)
    if (mark = 'e' || mark = 'E') && !digits.isEmpty && digits.all Char.isDigit then
      some (if negative then -(digitsValue digits : Int) else digitsValue digits)
    else none

/-- The parts of a numeral without a sign. -/
def Numeral.ofText? (text : List Char) : Option Numeral :=
  let whole := text.takeWhile Char.isDigit
  let (fraction, rest) : List Char × List Char := match text.dropWhile Char.isDigit with
    | '.' :: rest => (rest.takeWhile Char.isDigit, rest.dropWhile Char.isDigit)
    | rest => ([], rest)
  if whole.isEmpty && fraction.isEmpty then none
  else (exponent? rest).map (fun exponent => ⟨whole, fraction, exponent⟩)

/-- The magnitude nearest to a numeral.  Numerals beyond `10 ^ 400` are infinite and those below
`10 ^ -400` are zero, whatever their digits. -/
def Numeral.value (numeral : Numeral) : Binary64 :=
  let digits := (numeral.whole ++ numeral.fraction).dropWhile (· = '0')
  let scale := numeral.exponent - numeral.fraction.length
  let order := scale + digits.length
  if digits.isEmpty then .zero
  else if 400 < order then ⟨1, 972⟩
  else if order < -400 then .zero
  else if 0 ≤ scale then .ofNat (digitsValue digits * Nat.pow 10 scale.toNat)
  else .ofRatio (digitsValue digits) (Nat.pow 10 (-scale).toNat)

/-- The number that a text denotes, if it is a numeral. -/
def Floating.ofText? : List Char → Option Floating
  | '-' :: text => (Numeral.ofText? text).map (fun numeral => ⟨true, numeral.value⟩)
  | '+' :: text => (Numeral.ofText? text).map (fun numeral => ⟨false, numeral.value⟩)
  | text => (Numeral.ofText? text).map (fun numeral => ⟨false, numeral.value⟩)

/-! ### Positional texts -/

/-- No number has an exponent. -/
def positional : FloatFormat := ⟨-400, 400, false⟩

/-- The number with digits only; a whole number ends in `.0`. -/
def Floating.positionalText (x : Floating) : String :=
  if x.magnitude.isFinite then x.text positional
  else if x.negative then "-inf" else "inf"

/-- The number with digits only; a whole number has no point. -/
def Floating.plainText (x : Floating) : String :=
  let text := x.positionalText
  if text.endsWith ".0" then (text.dropEnd 2).toString else text

end ClusterCapacity.Decimal
