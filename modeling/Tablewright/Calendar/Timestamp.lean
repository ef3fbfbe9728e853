import Tablewright.Calendar.Date

/-!
# Timestamps

A timestamp is a date with a time of day. The nanoseconds of a leap second are counted on in the
second before it, so they run from 1,000,000,000 to 1,999,999,999 there; calculating with a leap
second can leave such nanoseconds in any second. A timestamp is written
with its milliseconds, as in `2024-01-02T09:00:00.250`; a leap second is written as second 60,
and a year that has not four digits with its sign.
-/

namespace Tablewright

/-- A date with a time of day. -/
structure Timestamp where
  date : Date
  /-- Below 24. -/
  hour : Nat
  /-- Below 60. -/
  minute : Nat
  /-- Below 60. -/
  second : Nat
  /-- Below 1,000,000,000, or below 2,000,000,000 in a leap second. -/
  nanosecond : Nat
  deriving DecidableEq, Repr

namespace Timestamp

/-- The number of nanoseconds of a second. -/
def nanosecondsPerSecond : Nat :=
  1000000000

/-- The number of nanoseconds of a millisecond. -/
def nanosecondsPerMillisecond : Nat :=
  1000000

/-- A number with zeros in front of it, up to a width. -/
def padded (width n : Nat) : List Char :=
  let digits := (toString n).toList
  List.replicate (width - digits.length) '0' ++ digits

/-- A year as it is written: four digits, or a sign and at least four digits. -/
def yearText (year : Int) : List Char :=
  let digits := padded 4 year.natAbs
  if year < 0 then '-' :: digits else if year ≤ 9999 then digits else '+' :: digits

/-- The second as it is written. -/
def writtenSecond (t : Timestamp) : Nat :=
  t.second + t.nanosecond / nanosecondsPerSecond

/-- The milliseconds of the second. -/
def millisecond (t : Timestamp) : Nat :=
  t.nanosecond % nanosecondsPerSecond / nanosecondsPerMillisecond

/-- A timestamp as it is written. -/
def toText (t : Timestamp) : String :=
  String.ofList (yearText t.date.year ++ '-' :: padded 2 t.date.month ++
    '-' :: padded 2 t.date.day ++ 'T' :: padded 2 t.hour ++ ':' :: padded 2 t.minute ++
    ':' :: padded 2 t.writtenSecond ++ '.' :: padded 3 t.millisecond)

end Timestamp

end Tablewright
