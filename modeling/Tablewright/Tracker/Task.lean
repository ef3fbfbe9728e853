import Tablewright.Calendar.Timestamp

/-!
# Tasks

A task begins at some time and is done once, or every so many days from then on. Its next due date
is the first one after today that lies a multiple of the interval away from its first day
(`Task.nextDate`).
-/

namespace Tablewright.Tracker

/-- The status of a task. -/
inductive TaskStatus
  | opened
  | closed
  deriving DecidableEq, Repr

/-- The word for a status. -/
def TaskStatus.word : TaskStatus → String
  | .opened => "open"
  | .closed => "close"

/-- A task to be. -/
structure NewTask where
  name : String
  startAt : Timestamp
  /-- The days from one due date to the next. -/
  intervalDay : Option Int
  deriving DecidableEq, Repr

/-- A task with its latest completion. -/
structure Task where
  id : Int
  name : String
  startAt : Timestamp
  intervalDay : Option Int
  doneAt : Option Timestamp
  deriving DecidableEq, Repr

/-- A number of days that no duration has. -/
structure DurationOverflow where
  days : Int
  deriving DecidableEq, Repr

namespace Task

/-- The greatest number of days of a duration. -/
def greatestDuration : Int :=
  106751991167

/-- The days from a date to the next due date, which is later. -/
def daysToNext (start now : Date) (interval : Int) : Int :=
  interval - (now.dayNumber - start.dayNumber) % interval

/-- The next due date after today: none for a task that is done once, or if the date is not
represented. -/
def nextDate (t : Task) (now : Timestamp) : Except DurationOverflow (Option Date) :=
  match t.intervalDay with
  | none => .ok none
  | some interval =>
    if interval ≤ 0 then .ok none
    else
      let days := daysToNext t.startAt.date now.date interval
      if days ≤ greatestDuration then .ok (now.date.addDays? days) else .error ⟨days⟩

end Task

end Tablewright.Tracker
