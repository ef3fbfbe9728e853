import Tablewright.Tracker.Store

/-!
# What the tables of the tracker hold

The rows of the three tables as tasks, changes of status and completions (`Contents`), and the
database that holds them in the tables of the script (`Contents.database`). The definitions of
the tables are those that the script makes.
-/

namespace Tablewright.Tracker

open Sql

/-! ## Rows -/

/-- A task that is stored. -/
structure StoredTask where
  id : Int
  task : NewTask
  deriving DecidableEq, Repr

/-- A change of the status of a task. -/
structure StatusChange where
  rowid : Int
  task : Int
  changedAt : Timestamp
  status : TaskStatus
  deriving DecidableEq, Repr

/-- A completion of a task. -/
structure Completion where
  id : Int
  task : Int
  doneAt : Timestamp
  deriving DecidableEq, Repr

/-- The row of a task. -/
def StoredTask.row (t : StoredTask) : Row :=
  ⟨t.id, [.integer t.id, .text t.task.name, stored t.task.startAt,
    (t.task.intervalDay.map .integer).getD .null]⟩

/-- The row of a change of status. -/
def StatusChange.row (c : StatusChange) : Row :=
  ⟨c.rowid, [.integer c.task, stored c.changedAt, .text c.status.word]⟩

/-- The row of a completion. -/
def Completion.row (c : Completion) : Row :=
  ⟨c.id, [.integer c.id, .integer c.task, stored c.doneAt]⟩

/-- The rows of all tables, and the counters of the tables that count their ids. -/
structure Contents where
  tasks : List StoredTask
  taskCounter : Int
  changes : List StatusChange
  completions : List Completion
  completionCounter : Int
  deriving DecidableEq, Repr

namespace Contents

/-- Tables without rows. -/
def empty : Contents :=
  ⟨[], 0, [], [], 0⟩

/-! ## Tables -/

/-- A column, qualified by its table. -/
def qualified (table column : String) : Expr :=
  .name (some table) column false

/-- The table of tasks. -/
def taskTable (c : Contents) : StoredTable where
  name := "periodicTask"
  columns := [⟨"id", "INTEGER", .integer, true, none⟩, ⟨"name", "TEXT", .text, true, none⟩,
    ⟨"startAt", "TEXT", .text, true, none⟩, ⟨"intervalDay", "INTEGER", .integer, false, none⟩]
  primaryKey := [0]
  rowidColumn := some 0
  isAutoIncrement := true
  isWithoutRowid := false
  checks := [
    (.binary .notEqual (.name none "name" false) (.literal (.text "")), "name != ''"),
    (.binary .greater (.name none "intervalDay" false) (.literal (.integer 0)),
      "intervalDay > 0")]
  keys := []
  foreignKeys := []
  source := "periodicTask (" ++
    "\n  id INTEGER NOT NULL PRIMARY KEY AUTOINCREMENT," ++
    "\n  name TEXT NOT NULL CHECK(name != '')," ++
    "\n  startAt TEXT NOT NULL," ++
    "\n  intervalDay INTEGER CHECK(intervalDay > 0)\n)"
  rows := c.tasks.map (·.row)
  counter := c.taskCounter

/-- The reference of a column to the id of a task. -/
def taskReference (column : Nat) : ForeignKey :=
  ⟨[column], ⟨"periodicTask", ["id"], .cascade⟩⟩

/-- The table of changes of status. -/
def changeTable (c : Contents) : StoredTable where
  name := "periodicTaskStatusChange"
  columns := [⟨"periodicTaskId", "INTEGER", .integer, true, none⟩,
    ⟨"changedAt", "TEXT", .text, true, none⟩, ⟨"status", "TEXT", .text, true, none⟩]
  primaryKey := []
  rowidColumn := none
  isAutoIncrement := false
  isWithoutRowid := false
  checks := [(.inList (.name none "status" false)
    [.literal (.text "open"), .literal (.text "close")], "status IN ('open', 'close')")]
  keys := []
  foreignKeys := [taskReference 0]
  source := "periodicTaskStatusChange (" ++
    "\n  periodicTaskId INTEGER NOT NULL," ++
    "\n  changedAt TEXT NOT NULL," ++
    "\n  status TEXT NOT NULL CHECK(status IN ('open', 'close'))," ++
    "\n  FOREIGN KEY (periodicTaskId) REFERENCES periodicTask(id) ON DELETE CASCADE\n)"
  rows := c.changes.map (·.row)
  counter := 0

/-- The table of completions. -/
def completionTable (c : Contents) : StoredTable where
  name := "doneTask"
  columns := [⟨"id", "INTEGER", .integer, true, none⟩,
    ⟨"periodicTaskId", "INTEGER", .integer, true, none⟩, ⟨"doneAt", "TEXT", .text, true, none⟩]
  primaryKey := [0]
  rowidColumn := some 0
  isAutoIncrement := true
  isWithoutRowid := false
  checks := []
  keys := []
  foreignKeys := [taskReference 1]
  source := "doneTask (" ++
    "\n  id INTEGER NOT NULL PRIMARY KEY AUTOINCREMENT," ++
    "\n  periodicTaskId INTEGER NOT NULL," ++
    "\n  doneAt TEXT NOT NULL," ++
    "\n  FOREIGN KEY (periodicTaskId) REFERENCES periodicTask(id) ON DELETE CASCADE\n)"
  rows := c.completions.map (·.row)
  counter := c.completionCounter

/-! ## The trigger -/

/-- That a change, under the given alias, is one of the new row's task. -/
def ofNewTask (tableAlias : String) : Expr :=
  .binary .equal (qualified tableAlias "periodicTaskId") (qualified "NEW" "periodicTaskId")

/-- The changes of the new row's task that are later than the one the query around sees. -/
def laterChanges : Query :=
  .select [.value (.literal (.integer 1))]
    [.table "periodicTaskStatusChange" "another" false .always]
    (.binary .and (.binary .and (ofNewTask "periodicTaskStatusChange") (ofNewTask "another"))
      (.binary .greater (qualified "another" "changedAt")
        (qualified "periodicTaskStatusChange" "changedAt")))
    []

/-- Whether a change is one of the new row's task, to its status, and none is later. -/
def isCurrentStatus : Expr :=
  .binary .and
    (.binary .and (ofNewTask "periodicTaskStatusChange")
      (.binary .equal (qualified "periodicTaskStatusChange" "status") (qualified "NEW" "status")))
    (.unary .not (.exists laterChanges))

/-- The query that fails if a task has the status of the new row already. -/
def refuseCurrentStatus : Query :=
  .select [.value (.raise .fail (.literal (.text "status is already changed")))]
    [.table "periodicTaskStatusChange" "periodicTaskStatusChange" false .always]
    isCurrentStatus []

/-- The trigger on changes of status. -/
def statusTrigger : StoredTrigger where
  name := "periodicTaskStatusChange_checkStatus"
  table := "periodicTaskStatusChange"
  time := .before
  event := .insert
  condition := .always
  steps := [.query refuseCurrentStatus]

/-! ## The database -/

/-- The objects that the script creates, in their order. -/
def main (c : Contents) : Schema :=
  [.table c.taskTable, .counters, .table c.changeTable,
    .index ⟨"periodicTaskStatusChange_periodicTaskId", "periodicTaskStatusChange", false, some [0]⟩,
    .trigger statusTrigger, .table c.completionTable,
    .index ⟨"doneTask_periodicTaskId", "doneTask", false, some [1]⟩]

/-- A database with these contents. -/
def database (c : Contents) : Database :=
  ⟨c.main, []⟩

end Contents

end Tablewright.Tracker
