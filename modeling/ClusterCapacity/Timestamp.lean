import ClusterCapacity.Decimal.Rounding

/-!
# Points in time

A point in time is counted from the beginning of 1970 and written as a date and a time of day in
UTC.  Dates follow the Gregorian calendar, whose years are taken to begin in March, so that the day
that only some years have is their last one.
-/

namespace ClusterCapacity

/-- A point in time since the beginning of 1970. -/
structure Timestamp where
  seconds : Nat
  /-- Below one thousand million. -/
  nanoseconds : Nat
deriving DecidableEq, Repr

namespace Timestamp

/-- Days from the first of March of the year 0 to the beginning of 1970. -/
def daysBefore1970 : Nat := 719468

/-- Year, month and day of a day counted from the beginning of 1970. -/
def date (days : Nat) : Nat × Nat × Nat :=
  let days := days + daysBefore1970
  let era := days / 146097
  let dayOfEra := days % 146097
  let yearOfEra :=
    (dayOfEra - dayOfEra / 1460 + dayOfEra / 36524 - dayOfEra / 146096) / 365
  let dayOfYear := dayOfEra - (365 * yearOfEra + yearOfEra / 4 - yearOfEra / 100)
  let month := (5 * dayOfYear + 2) / 153
  let day := dayOfYear - (153 * month + 2) / 5 + 1
  let year := yearOfEra + 400 * era
  if month < 10 then (year, month + 3, day) else (year + 1, month - 9, day)

/-- The fraction of a second in as few groups of three digits as hold it. -/
def fractionText (nanoseconds : Nat) : String :=
  if nanoseconds = 0 then ""
  else if nanoseconds % 1000000 = 0 then
    "." ++ Decimal.paddedDigits 3 (nanoseconds / 1000000)
  else if nanoseconds % 1000 = 0 then "." ++ Decimal.paddedDigits 6 (nanoseconds / 1000)
  else "." ++ Decimal.paddedDigits 9 nanoseconds

/-- The point in time in UTC. -/
def text (time : Timestamp) : String :=
  let (year, month, day) := date (time.seconds / 86400)
  let two := Decimal.paddedDigits 2
  let second := time.seconds % 86400
  Decimal.paddedDigits 4 year ++ "-" ++ two month ++ "-" ++ two day ++ "T" ++ two (second / 3600)
    ++ ":" ++ two (second / 60 % 60) ++ ":" ++ two (second % 60) ++ fractionText time.nanoseconds
    ++ "Z"

end Timestamp

end ClusterCapacity
