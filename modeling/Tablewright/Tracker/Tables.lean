import Tablewright.Schema.Table

/-!
# The tables of the task tracker

The tracker keeps tasks that are done once or every so many days, their completions, and the
changes of their status. A completion and a change of status belong to a task and go with it. A
trigger refuses a change to the status that a task has already.
-/

namespace Tablewright.Tracker

/-- The script that defines the tables. -/
def script : String :=
  String.join (scriptLines.map (· ++ "\n"))
where
  /-- The lines of the script. -/
  scriptLines : List String := [
  "CREATE TABLE IF NOT EXISTS periodicTask (",
  "  id INTEGER NOT NULL PRIMARY KEY AUTOINCREMENT,",
  "  name TEXT NOT NULL CHECK(name != ''),",
  "  startAt TEXT NOT NULL,",
  "  intervalDay INTEGER CHECK(intervalDay > 0)",
  ");",
  "",
  "CREATE TABLE IF NOT EXISTS periodicTaskStatusChange (",
  "  periodicTaskId INTEGER NOT NULL,",
  "  changedAt TEXT NOT NULL,",
  "  status TEXT NOT NULL CHECK(status IN ('open', 'close')),",
  "  FOREIGN KEY (periodicTaskId) REFERENCES periodicTask(id) ON DELETE CASCADE",
  ");",
  "",
  "CREATE INDEX IF NOT EXISTS periodicTaskStatusChange_periodicTaskId ON " ++
    "periodicTaskStatusChange(periodicTaskId);",
  "",
  "DROP TRIGGER IF EXISTS periodicTaskStatusChange_checkStatus;",
  "CREATE TRIGGER IF NOT EXISTS periodicTaskStatusChange_checkStatus",
  "BEFORE INSERT ON periodicTaskStatusChange",
  "BEGIN",
  "  SELECT RAISE(FAIL, 'status is already changed')",
  "  FROM periodicTaskStatusChange",
  "  WHERE",
  "    periodicTaskStatusChange.periodicTaskId = NEW.periodicTaskId",
  "    AND periodicTaskStatusChange.status = NEW.status",
  "    AND NOT EXISTS (",
  "      SELECT 1",
  "      FROM periodicTaskStatusChange another",
  "      WHERE",
  "        periodicTaskStatusChange.periodicTaskId = NEW.periodicTaskId",
  "        AND another.periodicTaskId = NEW.periodicTaskId",
  "        AND another.changedAt > periodicTaskStatusChange.changedAt",
  "    );",
  "END;",
  "",
  "CREATE TABLE IF NOT EXISTS doneTask (",
  "  id INTEGER NOT NULL PRIMARY KEY AUTOINCREMENT,",
  "  periodicTaskId INTEGER NOT NULL,",
  "  doneAt TEXT NOT NULL,",
  "  FOREIGN KEY (periodicTaskId) REFERENCES periodicTask(id) ON DELETE CASCADE",
  ");",
  "",
  "CREATE INDEX IF NOT EXISTS doneTask_periodicTaskId ON doneTask(periodicTaskId);"]

/-- A column that the primary key is. -/
def key (name : String) : Column :=
  .declare name .integer true true true

/-- A column that may not be NULL. -/
def mandatory (name : String) (affinity : Affinity) : Column :=
  .declare name affinity true false false

/-- The tasks. -/
def periodicTask : Table where
  name := "periodicTask"
  columns := [key "id", mandatory "name" .text, mandatory "startAt" .text,
    .declare "intervalDay" .integer false false false]

/-- The changes of the status of tasks. -/
def statusChange : Table where
  name := "periodicTaskStatusChange"
  columns := [mandatory "periodicTaskId" .integer, mandatory "changedAt" .text,
    mandatory "status" .text]

/-- The completions of tasks. -/
def doneTask : Table where
  name := "doneTask"
  columns := [key "id", mandatory "periodicTaskId" .integer, mandatory "doneAt" .text]

/-- All tables, in the order of the script. -/
def tables : List Table :=
  [periodicTask, statusChange, doneTask]

end Tablewright.Tracker
