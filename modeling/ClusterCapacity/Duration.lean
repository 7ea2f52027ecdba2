import ClusterCapacity.Text.Blank
import ClusterCapacity.Text.Quoted

/-!
# Lengths of time

A length of time is written as amounts with units, such as `1min 30s` or `2.5h`, which are added up.
Blanks may stand anywhere but inside the name of a unit.  Every count has to stay below `2 ^ 64`,
and a fraction has to come out even in nanoseconds, or in seconds for hours and longer units.
-/

namespace ClusterCapacity

/-- A length of time. -/
structure Duration where
  seconds : Nat
  /-- Below one thousand million. -/
  nanoseconds : Nat
deriving DecidableEq, Repr, Inhabited

/-- Why a text is no length of time. -/
inductive DurationError where
  | empty
  | invalidCharacter (offset : Nat)
  | numberExpected (offset : Nat)
  /-- An amount without a unit. -/
  | unitMissing (amount : Nat)
  | unknownUnit (name : String)
  /-- A count is too large, or a fraction does not come out even. -/
  | unrepresentable
deriving DecidableEq, Repr

/-- What the user is told. -/
def DurationError.message : DurationError → String
  | empty => "value was empty"
  | invalidCharacter offset => "invalid character at " ++ toString offset
  | numberExpected offset => "expected number at " ++ toString offset
  | unitMissing amount =>
    "time unit needed, for example " ++ toString amount ++ "sec or " ++ toString amount ++ "ms"
  | unknownUnit name =>
    "unknown time unit " ++ Text.quoted name ++ ", supported units: ns, us/µs, ms, sec, min, "
      ++ "hours, days, weeks, months, years (and few variations)"
  | unrepresentable =>
    "number is too large or cannot be represented without a lack of precision"

namespace Duration

/-- No time at all. -/
def zero : Duration := ⟨0, 0⟩

/-! ### Units -/

/-- A unit of time. -/
inductive Unit where
  | nanosecond | microsecond | millisecond | second | minute | hour | day | week | month | year
deriving DecidableEq, Repr

/-- The unit that goes by a name; a month has 30.44 days and a year 365.25. -/
def Unit.ofName? (name : String) : Option Unit :=
  if ["nanos", "nsec", "ns"].contains name then some nanosecond
  else if ["usec", "us", "µs"].contains name then some microsecond
  else if ["millis", "msec", "ms"].contains name then some millisecond
  else if ["seconds", "second", "secs", "sec", "s"].contains name then some second
  else if ["minutes", "minute", "min", "mins", "m"].contains name then some minute
  else if ["hours", "hour", "hrs", "hr", "h"].contains name then some hour
  else if ["days", "day", "d"].contains name then some day
  else if ["weeks", "week", "wks", "wk", "w"].contains name then some week
  else if ["months", "month", "M"].contains name then some month
  else if ["years", "year", "yrs", "yr", "y"].contains name then some year
  else none

/-- Nanoseconds in one of a unit below the second. -/
def Unit.nanoseconds : Unit → Nat
  | nanosecond => 1
  | microsecond => 1000
  | millisecond => 1000000
  | _ => 0

/-- Seconds in one of a unit. -/
def Unit.seconds : Unit → Nat
  | second => 1
  | minute => 60
  | hour => 3600
  | day => 86400
  | week => 604800
  | month => 2630016
  | year => 31557600
  | _ => 0

/-- The nanoseconds that a fraction of a unit up to the minute is counted in. -/
def Unit.fractionNanoseconds : Unit → Nat
  | microsecond => 1000
  | millisecond => 1000000
  | second => 1000000000
  | minute => 60000000000
  | _ => 0

/-- The seconds that a fraction of a unit above the minute is counted in. -/
def Unit.fractionSeconds : Unit → Nat
  | nanosecond | microsecond | millisecond | second | minute => 0
  | unit => unit.seconds

/-! ### Adding up -/

/-- A count, if it is small enough. -/
def count (n : Nat) : Except DurationError Nat :=
  if n < UInt64.size then .ok n else .error .unrepresentable

/-- A quotient, if it comes out even. -/
def evenly (n d : Nat) : Except DurationError Nat :=
  if n % d = 0 then .ok (n / d) else .error .unrepresentable

/-- Adds seconds and any number of nanoseconds. -/
def plus (duration : Duration) (seconds nanoseconds : Nat) : Except DurationError Duration := do
  let nanoseconds ← count (duration.nanoseconds + nanoseconds)
  let seconds ← count (duration.seconds + seconds + nanoseconds / 1000000000)
  return ⟨seconds, nanoseconds % 1000000000⟩

/-- A decimal fraction. -/
structure Fraction where
  numerator : Nat
  denominator : Nat
deriving DecidableEq, Repr

/-- An amount as far as it has been read. -/
structure Amount where
  whole : Nat
  fraction : Option Fraction := none
deriving DecidableEq, Repr

/-- Adds an amount of the unit with the given name. -/
def plusAmount (duration : Duration) (amount : Amount) (name : String) :
    Except DurationError Duration := do
  match Unit.ofName? name with
  | none =>
    if name.isEmpty then throw (.unitMissing amount.whole) else throw (.unknownUnit name)
  | some unit =>
    let duration ← duration.plus (← count (amount.whole * unit.seconds))
      (← count (amount.whole * unit.nanoseconds))
    match amount.fraction with
    | none => return duration
    | some ⟨numerator, denominator⟩ =>
      if unit = .nanosecond then throw .unrepresentable
      let seconds ← evenly (← count (numerator * unit.fractionSeconds)) denominator
      let nanoseconds ← evenly (← count (numerator * unit.fractionNanoseconds)) denominator
      duration.plus seconds nanoseconds

/-! ### Reading -/

/-- Where in a text the reading stands. -/
inductive Reading where
  /-- Before an amount; the offset is where the looking for one began. -/
  | before (offset : Nat)
  | whole (amount : Nat)
  /-- After the point of an amount; the offset is that of the last character that was in order. -/
  | fraction (amount : Nat) (fraction : Fraction) (offset : Nat)
  /-- In the name of a unit, whose last letter is the first. -/
  | unit (amount : Amount) (letters : List Char)
deriving Repr

/-- The value of a digit. -/
def digit? (c : Char) : Option Nat := if c.isDigit then some (c.toNat - 48) else none

/-- The letters that names of units are made of. -/
def isUnitLetter (c : Char) : Bool := c.isAlpha || c = 'µ'

/-- The name that was read. -/
def nameOf (letters : List Char) : String := String.ofList letters.reverse

/-- A fraction has at least one digit. -/
def Fraction.check (fraction : Fraction) (offset : Nat) : Except DurationError Fraction :=
  if fraction.denominator = 1 then .error (.invalidCharacter offset) else .ok fraction

/-- Reads the rest of a text from `offset` on, with `total` so far; `any` says whether there was an
amount before. -/
def scan (any : Bool) (total : Duration) : Reading → Nat → List Char →
    Except DurationError Duration
  | .before _, _, [] => if any then .ok total else .error .empty
  | .whole amount, _, [] => plusAmount total ⟨amount, none⟩ ""
  | .fraction amount fraction last, _, [] => do
    plusAmount total ⟨amount, some (← fraction.check last)⟩ ""
  | .unit amount letters, _, [] => plusAmount total amount (nameOf letters)
  | .before begun, offset, c :: rest =>
    match digit? c with
    | some digit => scan any total (.whole digit) (offset + c.utf8Size) rest
    | none =>
      if Text.isBlank c then scan any total (.before begun) (offset + c.utf8Size) rest
      else .error (.numberExpected begun)
  | .whole amount, offset, c :: rest =>
    match digit? c with
    | some digit => do
      scan any total (.whole (← count (10 * amount + digit))) (offset + c.utf8Size) rest
    | none =>
      if Text.isBlank c then scan any total (.whole amount) (offset + c.utf8Size) rest
      else if isUnitLetter c then
        scan any total (.unit ⟨amount, none⟩ [c]) (offset + c.utf8Size) rest
      else if c = '.' then scan any total (.fraction amount ⟨0, 1⟩ offset) (offset + 1) rest
      else .error (.invalidCharacter offset)
  | .fraction amount fraction last, offset, c :: rest =>
    match digit? c with
    | some digit => do
      let denominator ← count (10 * fraction.denominator)
      let numerator ← count (10 * fraction.numerator + digit)
      scan any total (.fraction amount ⟨numerator, denominator⟩ (offset + 1)) (offset + 1) rest
    | none =>
      if Text.isBlank c then
        scan any total (.fraction amount fraction (offset + c.utf8Size)) (offset + c.utf8Size) rest
      else if isUnitLetter c then do
        scan any total (.unit ⟨amount, some (← fraction.check last)⟩ [c]) (offset + c.utf8Size) rest
      else .error (.invalidCharacter last)
  | .unit amount letters, offset, c :: rest =>
    match digit? c with
    | some digit => do
      scan true (← plusAmount total amount (nameOf letters)) (.whole digit)
        (offset + c.utf8Size) rest
    | none =>
      if Text.isBlank c then do
        scan true (← plusAmount total amount (nameOf letters)) (.before (offset + c.utf8Size))
          (offset + c.utf8Size) rest
      else if isUnitLetter c then
        scan any total (.unit amount (c :: letters)) (offset + c.utf8Size) rest
      else .error (.invalidCharacter offset)

/-- Reads a length of time; zero needs no unit. -/
def parse (text : String) : Except DurationError Duration :=
  if text = "0" then .ok zero else scan false zero (.before 0) 0 text.toList

end Duration

end ClusterCapacity
