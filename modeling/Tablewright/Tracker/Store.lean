import Tablewright.AccessModule.Call
import Tablewright.Calendar.Reading
import Tablewright.Tracker.Tables
import Tablewright.Tracker.Task

/-!
# Tasks in a database

The operations of the tracker, as statements of a session on a database with its tables. Times
are stored as text. What is read back may have been written by others, so it is decoded column by
column, and the first value of a wrong kind is reported.
-/

namespace Tablewright.Tracker

open AccessModule

/-! ## Operations -/

/-- A database with the tables of the tracker. -/
def createTables : SessionM Unit :=
  Session.execute script

/-- The members of a row by their names. -/
def membersOf (fields : List (String × Option Value)) : Members :=
  fun column => (fields.lookup column).join

/-- A timestamp as it is stored. -/
def stored (t : Timestamp) : Value :=
  .text t.toText

/-- The members of a task without its id. -/
def taskMembers (t : NewTask) : List (String × Option Value) :=
  [("name", some (.text t.name)), ("startAt", some (stored t.startAt)),
    ("intervalDay", t.intervalDay.map .integer)]

/-- Add tasks, all in one statement. -/
def addTasks (tasks : List NewTask) : SessionM Unit :=
  insertRows periodicTask (tasks.map fun t => membersOf (taskMembers t))

/-- Put a task in the place of another one. -/
def updateTask (id : Int) (task : NewTask) : SessionM Unit :=
  replaceRows periodicTask [membersOf (("id", some (.integer id)) :: taskMembers task)]

/-- Note that a task was done. -/
def completeTask (id : Int) (now : Timestamp) : SessionM Unit :=
  insertRows doneTask
    [membersOf [("periodicTaskId", some (.integer id)), ("doneAt", some (stored now))]]

/-- Change the status of a task; a task that has it already keeps it. -/
def changeStatus (id : Int) (status : TaskStatus) (now : Timestamp) : SessionM Unit :=
  Session.toleratingDuplicate (insertRows statusChange
    [membersOf [("periodicTaskId", some (.integer id)), ("changedAt", some (stored now)),
      ("status", some (.text status.word))]])

/-- Remove a task with its completions and changes of status. -/
def removeTask (id : Int) : SessionM Unit :=
  deleteRows periodicTask (membersOf [("id", some (.integer id))])

/-! ## Reading tasks -/

/-- Why a value is not what a column holds. -/
inductive DecodeFault
  | missing
  | notInteger (found : Value)
  | notText (found : Value)
  | notTimestamp (problem : TimestampProblem)
  deriving DecidableEq, Repr

/-- A column with a value that it does not hold. -/
structure DecodeError where
  column : String
  fault : DecodeFault
  deriving DecidableEq, Repr

/-- The diagnostic for a fault. -/
def DecodeFault.message : DecodeFault → String
  | missing => "missing value"
  | notInteger found => "expected integer, found " ++ found.describe
  | notText found => "expected text, found " ++ found.describe
  | notTimestamp problem => problem.message

/-- The diagnostic for a column. -/
def DecodeError.message (e : DecodeError) : String :=
  "cannot decode " ++ e.column ++ ": " ++ e.fault.message

/-- The value of a column of a row, by its position. -/
def valueAt (row : List Value) (position : Nat) (column : String) : Except DecodeError Value :=
  match row[position]? with
  | some v => .ok v
  | none => .error ⟨column, .missing⟩

/-- An integer. -/
def decodeInteger (column : String) : Value → Except DecodeError Int
  | .integer n => .ok n
  | v => .error ⟨column, .notInteger v⟩

/-- A text. -/
def decodeText (column : String) : Value → Except DecodeError String
  | .text s => .ok s
  | v => .error ⟨column, .notText v⟩

/-- A timestamp that was stored as text. -/
def decodeTimestamp (column text : String) : Except DecodeError Timestamp :=
  (Timestamp.read text).mapError fun problem => ⟨column, .notTimestamp problem⟩

/-- A value that may be NULL. -/
def decodeOptional {α : Type} (decode : Value → Except DecodeError α) :
    Value → Except DecodeError (Option α)
  | .null => .ok none
  | v => (decode v).map some

/-- The columns of a task with its latest completion. -/
def taskColumns : List String :=
  ["periodicTask.id", "periodicTask.name", "periodicTask.startAt", "periodicTask.intervalDay",
    "doneTask.doneAt"]

/-- A task from its row. That the start is a timestamp is tested last. -/
def decodeTask (row : List Value) : Except DecodeError Task := do
  let id ← decodeInteger "periodicTask.id" (← valueAt row 0 "periodicTask.id")
  let name ← decodeText "periodicTask.name" (← valueAt row 1 "periodicTask.name")
  let start ← decodeText "periodicTask.startAt" (← valueAt row 2 "periodicTask.startAt")
  let interval ← decodeOptional (decodeInteger "periodicTask.intervalDay")
    (← valueAt row 3 "periodicTask.intervalDay")
  let done ← decodeOptional
    (fun v => do decodeTimestamp "doneTask.doneAt" (← decodeText "doneTask.doneAt" v))
    (← valueAt row 4 "doneTask.doneAt")
  return ⟨id, name, ← decodeTimestamp "periodicTask.startAt" start, interval, done⟩

/-- The query for all tasks, each with the completion that has no later one. -/
def taskQuery : String :=
  "SELECT " ++ String.intercalate ", " taskColumns ++ "\n" ++
  "FROM periodicTask\n" ++
  "LEFT JOIN doneTask ON doneTask.periodicTaskId = periodicTask.id\n" ++
  "  AND NOT EXISTS (\n" ++
  "    SELECT 1 FROM doneTask later\n" ++
  "    WHERE later.periodicTaskId = doneTask.periodicTaskId AND later.doneAt > doneTask.doneAt\n" ++
  "  )\n" ++
  "ORDER BY periodicTask.id"

/-- The event of rows that were read. -/
def fetchedEvent (rows : List (List Value)) : Event :=
  ⟨.debug, "fetched tasks", [("rows", toString rows.length)]⟩

/-- The tasks of rows. -/
def decodeTasks (rows : List (List Value)) : Except DecodeError (List Task) :=
  rows.mapM decodeTask

/-- All tasks in the order of their ids. -/
def fetchTasks : SessionM (Except DecodeError (List Task)) := do
  let rows ← Session.query taskQuery []
  modify (Session.note [.event (fetchedEvent rows)])
  return decodeTasks rows

end Tablewright.Tracker
