import Tablewright.Proofs.Database.Rows
import Tablewright.Proofs.Tracker.Contents

/-!
# Rows of any texts

The tables of the tracker take texts that are no times and no status words of an operation: a caller
of the functions for the tables may write them. The rows of the tables with whatever texts they have
are `Records`; what the operations of the tracker write is a special case (`Contents.records`).
-/

namespace Tablewright.Tracker

open Sql Database

/-! ## Rows -/

/-- A row of the table of tasks. -/
structure TaskRecord where
  id : Int
  name : String
  startAt : String
  intervalDay : Option Int
  deriving DecidableEq, Repr

/-- A row of the table of changes of status. -/
structure ChangeRecord where
  rowid : Int
  task : Int
  changedAt : String
  status : String
  deriving DecidableEq, Repr

/-- A row of the table of completions. -/
structure CompletionRecord where
  id : Int
  task : Int
  doneAt : String
  deriving DecidableEq, Repr

/-- A value, or NULL. -/
def orNull {α : Type} (f : α → Value) (a : Option α) : Value :=
  (a.map f).getD .null

/-- The row of a task. -/
def TaskRecord.row (t : TaskRecord) : Row :=
  ⟨t.id, [.integer t.id, .text t.name, .text t.startAt, orNull .integer t.intervalDay]⟩

/-- The row of a change of status. -/
def ChangeRecord.row (x : ChangeRecord) : Row :=
  ⟨x.rowid, [.integer x.task, .text x.changedAt, .text x.status]⟩

/-- The row of a completion. -/
def CompletionRecord.row (x : CompletionRecord) : Row :=
  ⟨x.id, [.integer x.id, .integer x.task, .text x.doneAt]⟩

theorem TaskRecord.row_injective : Function.Injective TaskRecord.row := by
  rintro ⟨id, name, startAt, interval⟩ ⟨id', name', startAt', interval'⟩ h
  simp only [row, Row.mk.injEq, List.cons.injEq, Value.integer.injEq, Value.text.injEq] at h
  obtain ⟨rfl, -, rfl, rfl, h, -⟩ := h
  cases interval <;> cases interval' <;> simp_all [orNull]

theorem ChangeRecord.row_injective : Function.Injective ChangeRecord.row := by
  rintro ⟨rowid, task, changedAt, status⟩ ⟨rowid', task', changedAt', status'⟩ h
  simp only [row, Row.mk.injEq, List.cons.injEq, Value.integer.injEq, Value.text.injEq] at h
  obtain ⟨rfl, rfl, rfl, rfl, -⟩ := h
  rfl

theorem CompletionRecord.row_injective : Function.Injective CompletionRecord.row := by
  rintro ⟨id, task, doneAt⟩ ⟨id', task', doneAt'⟩ h
  simp only [row, Row.mk.injEq, List.cons.injEq, Value.integer.injEq, Value.text.injEq] at h
  obtain ⟨rfl, -, rfl, rfl, -⟩ := h
  rfl

/-! ## Tables -/

/-- The rows of all tables, and the counters of the tables that count their ids. -/
structure Records where
  tasks : List TaskRecord
  taskCounter : Int
  changes : List ChangeRecord
  completions : List CompletionRecord
  completionCounter : Int
  deriving DecidableEq, Repr

namespace Records

/-- Tables without rows. -/
def empty : Records :=
  ⟨[], 0, [], [], 0⟩

variable (r : Records)

/-- The table of tasks. -/
def taskTable : StoredTable :=
  { Contents.empty.taskTable with rows := r.tasks.map (·.row), counter := r.taskCounter }

/-- The table of changes of status. -/
def changeTable : StoredTable :=
  { Contents.empty.changeTable with rows := r.changes.map (·.row) }

/-- The table of completions. -/
def completionTable : StoredTable :=
  { Contents.empty.completionTable with
    rows := r.completions.map (·.row), counter := r.completionCounter }

/-- The objects that the script creates, in their order. -/
def main : Schema :=
  [.table r.taskTable, .counters, .table r.changeTable,
    .index ⟨"periodicTaskStatusChange_periodicTaskId", "periodicTaskStatusChange", false, some [0]⟩,
    .trigger Contents.statusTrigger, .table r.completionTable,
    .index ⟨"doneTask_periodicTaskId", "doneTask", false, some [1]⟩]

/-- A database with these rows. -/
def database : Database :=
  ⟨r.main, []⟩

/-! ## Tables by their names -/

theorem table?_task : r.main.table? "periodicTask" = some r.taskTable := by rfl

theorem table?_change : r.main.table? "periodicTaskStatusChange" = some r.changeTable := by rfl

theorem table?_completion : r.main.table? "doneTask" = some r.completionTable := by rfl

theorem rowsOf_task : r.database.rowsOf "periodicTask" = r.tasks.map (·.row) := by rfl

theorem rowsOf_change :
    r.database.rowsOf "periodicTaskStatusChange" = r.changes.map (·.row) := by rfl

theorem rowsOf_completion : r.database.rowsOf "doneTask" = r.completions.map (·.row) := by rfl

theorem name_taskTable : r.taskTable.name = "periodicTask" := rfl

theorem name_changeTable : r.changeTable.name = "periodicTaskStatusChange" := rfl

theorem name_completionTable : r.completionTable.name = "doneTask" := rfl

theorem schema_main : r.database.schema .main = r.main := rfl

theorem setSchema_main (r' : Records) : r.database.setSchema .main r'.main = r'.database := rfl

end Records

/-! ## What the operations write -/

/-- The row of a task with its times as texts. -/
def StoredTask.record (t : StoredTask) : TaskRecord :=
  ⟨t.id, t.task.name, t.task.startAt.toText, t.task.intervalDay⟩

/-- The row of a change of status with its time as text. -/
def StatusChange.record (x : StatusChange) : ChangeRecord :=
  ⟨x.rowid, x.task, x.changedAt.toText, x.status.word⟩

/-- The row of a completion with its time as text. -/
def Completion.record (x : Completion) : CompletionRecord :=
  ⟨x.id, x.task, x.doneAt.toText⟩

namespace Contents

/-- The contents with their times as texts. -/
def records (c : Contents) : Records where
  tasks := c.tasks.map (·.record)
  taskCounter := c.taskCounter
  changes := c.changes.map (·.record)
  completions := c.completions.map (·.record)
  completionCounter := c.completionCounter

variable (c : Contents)

theorem taskTable_records : c.records.taskTable = c.taskTable := by
  have hrows : c.records.tasks.map (·.row) = c.tasks.map (·.row) := List.map_map
  rw [Records.taskTable, hrows]
  rfl

theorem changeTable_records : c.records.changeTable = c.changeTable := by
  have hrows : c.records.changes.map (·.row) = c.changes.map (·.row) := List.map_map
  rw [Records.changeTable, hrows]
  rfl

theorem completionTable_records : c.records.completionTable = c.completionTable := by
  have hrows : c.records.completions.map (·.row) = c.completions.map (·.row) := List.map_map
  rw [Records.completionTable, hrows]
  rfl

theorem database_records : c.records.database = c.database := by
  rw [Records.database, Records.main, taskTable_records, changeTable_records,
    completionTable_records]
  rfl

theorem rowsOf_task : c.database.rowsOf "periodicTask" = c.tasks.map (·.row) := by rfl

theorem rowsOf_change :
    c.database.rowsOf "periodicTaskStatusChange" = c.changes.map (·.row) := by rfl

theorem rowsOf_completion : c.database.rowsOf "doneTask" = c.completions.map (·.row) := by rfl

end Contents

end Tablewright.Tracker
