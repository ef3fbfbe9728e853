/-!
# Dates

Dates of the Gregorian calendar, also before it was introduced; the year before year 1 is year 0.
`dayNumber` counts the days since 1 March of year 0 and `ofDayNumber` goes back. Years from
-262143 to 262142 are represented; a date beyond them is none.
-/

namespace Tablewright

/-- A day of the calendar. -/
structure Date where
  year : Int
  /-- From 1 to 12. -/
  month : Nat
  /-- From 1 to the length of the month. -/
  day : Nat
  deriving DecidableEq, Repr

namespace Date

/-- Whether a year has 366 days. -/
def isLeapYear (year : Int) : Bool :=
  year % 4 == 0 && (year % 100 != 0 || year % 400 == 0)

/-- The number of days of a month. -/
def daysInMonth (year : Int) (month : Nat) : Nat :=
  match month with
  | 2 => if isLeapYear year then 29 else 28
  | 4 | 6 | 9 | 11 => 30
  | _ => 31

/-- The first year that is represented. -/
def firstYear : Int :=
  -262143

/-- The last year that is represented. -/
def lastYear : Int :=
  262142

/-- Whether there is such a day, in a year that is represented. -/
def isRepresented (d : Date) : Bool :=
  firstYear ≤ d.year && d.year ≤ lastYear && 1 ≤ d.month && d.month ≤ 12 && 1 ≤ d.day &&
    d.day ≤ daysInMonth d.year d.month

/-! ## Counting days

Years are counted from March on, so that a leap day is the last of its year, and in eras of 400
years, which are all of the same length. -/

/-- The number of days of 400 years. -/
def daysPerEra : Int :=
  146097

/-- The number of a month, counted from March. -/
def monthFromMarch (month : Nat) : Int :=
  (month + 9) % 12

/-- The number of days from 1 March up to a month counted from March. -/
def daysBeforeMonth (monthFromMarch : Int) : Int :=
  (153 * monthFromMarch + 2) / 5

/-- The number of days of the years of an era before one of them. -/
def daysBeforeYear (yearOfEra : Int) : Int :=
  365 * yearOfEra + yearOfEra / 4 - yearOfEra / 100

/-- The number of days from 1 March of year 0. -/
def dayNumber (d : Date) : Int :=
  let year := if d.month ≤ 2 then d.year - 1 else d.year
  year / 400 * daysPerEra + daysBeforeYear (year % 400) + daysBeforeMonth (monthFromMarch d.month) +
    d.day - 1

/-- The year of an era that a day of the era belongs to. -/
def yearOfEra (dayOfEra : Int) : Int :=
  (dayOfEra - dayOfEra / 1460 + dayOfEra / 36524 - dayOfEra / 146096) / 365

/-- The date with the given number of days from 1 March of year 0. -/
def ofDayNumber (n : Int) : Date :=
  let dayOfEra := n % daysPerEra
  let yearOfEra := yearOfEra dayOfEra
  let dayOfYear := dayOfEra - daysBeforeYear yearOfEra
  let month := (5 * dayOfYear + 2) / 153
  let year := n / daysPerEra * 400 + yearOfEra
  { year := if month < 10 then year else year + 1
    month := (if month < 10 then month + 3 else month - 9).toNat
    day := (dayOfYear - daysBeforeMonth month + 1).toNat }

/-- The day so many days later, if it is represented. -/
def addDays? (d : Date) (days : Int) : Option Date :=
  let later := ofDayNumber (d.dayNumber + days)
  if later.isRepresented then some later else none

end Date

end Tablewright
