import Tablewright.Proofs.AccessModule.BoundFields
import Tablewright.Proofs.Database.BatchRun
import Tablewright.Proofs.Session.Effects
import Tablewright.Proofs.Tracker.StatusTrigger
import Tablewright.Tracker.Store

/-!
# Rows for the generated functions

The functions that are generated for the tables take structs of any members of their types. What
the members supply for a row of a table (`supplies_params`) is the same whether a member that is
absent is left out or bound to NULL, since no column of the tables has a default.
-/

namespace Tablewright.Tracker

open Sql Database AccessModule Session

/-! ## Tables -/

/-- A table of the tracker. -/
inductive TableName
  | tasks
  | changes
  | completions
  deriving DecidableEq, Repr

/-- The table with a name. -/
def TableName.table : TableName → Table
  | tasks => periodicTask
  | changes => statusChange
  | completions => doneTask

/-- Write rows by the function that is generated for a table. -/
def writeCall (verb : WriteVerb) (k : TableName) (rows : List (Params (writeRole verb) k.table)) :
    SessionM Unit :=
  match verb with
  | .insert => insertRows k.table (rows.map (·.value))
  | .replace => replaceRows k.table (rows.map (·.value))

/-- The fields of a row to write. -/
def rowFields {verb : WriteVerb} {k : TableName} (p : Params (writeRole verb) k.table) : Fields :=
  boundFields (writeRole verb) k.table p.value

theorem writeCall_eq (verb : WriteVerb) (k : TableName)
    (rows : List (Params (writeRole verb) k.table)) : writeCall verb k rows =
      Session.write verb k.table.name (columnNames (writeRole verb) k.table) (rows.map rowFields) := by
  cases verb <;> simp only [writeCall, insertRows, replaceRows, List.map_map] <;> rfl

/-! ## Values of members -/

/-- The integer of a member. -/
def integer? : Option Value → Option Int
  | some (.integer n) => some n
  | _ => none

/-- The text of a member. -/
def text? : Option Value → Option String
  | some (.text s) => some s
  | _ => none

/-- What members supply for a task. -/
def TaskValues.of (m : Members) : TaskValues :=
  ⟨integer? (m "id"), text? (m "name"), text? (m "startAt"), integer? (m "intervalDay")⟩

/-- What members supply for a change of status. -/
def ChangeValues.of (m : Members) : ChangeValues :=
  ⟨integer? (m "periodicTaskId"), text? (m "changedAt"), text? (m "status")⟩

/-- What members supply for a completion. -/
def CompletionValues.of (m : Members) : CompletionValues :=
  ⟨integer? (m "id"), integer? (m "periodicTaskId"), text? (m "doneAt")⟩

/-- The members that supply this for a task. -/
def TaskValues.members (v : TaskValues) : Members :=
  membersOf [("id", v.id.map .integer), ("name", v.name.map .text),
    ("startAt", v.startAt.map .text), ("intervalDay", v.intervalDay.map .integer)]

/-- The members that supply this for a change of status. -/
def ChangeValues.members (v : ChangeValues) : Members :=
  membersOf [("periodicTaskId", v.task.map .integer), ("changedAt", v.changedAt.map .text),
    ("status", v.status.map .text)]

/-- The members that supply this for a completion. -/
def CompletionValues.members (v : CompletionValues) : Members :=
  membersOf [("id", v.id.map .integer), ("periodicTaskId", v.task.map .integer),
    ("doneAt", v.doneAt.map .text)]

section Fits

variable {role : Role} {t : Table} {m : Members}

/-- A member of the type of integers is an integer. -/
theorem eq_integer (h : Fits role t m) {n : String}
    (hn : (members role t).any fun c => c.column.name == n && c.type == .i64) :
    m n = (integer? (m n)).map .integer := by
  obtain ⟨c, hc, hname⟩ := List.any_eq_true.1 hn
  obtain ⟨rfl, htype⟩ : c.column.name = n ∧ c.type = .i64 := by simpa using hname
  cases hv : m c.column.name with
  | none => rfl
  | some v =>
    have hholds := h.typed c hc v hv
    rw [htype] at hholds
    cases v <;> first | rfl | cases hholds

/-- A member of the type of texts is a text. -/
theorem eq_text (h : Fits role t m) {n : String}
    (hn : (members role t).any fun c => c.column.name == n && c.type == .string) :
    m n = (text? (m n)).map .text := by
  obtain ⟨c, hc, hname⟩ := List.any_eq_true.1 hn
  obtain ⟨rfl, htype⟩ : c.column.name = n ∧ c.type = .string := by simpa using hname
  cases hv : m c.column.name with
  | none => rfl
  | some v =>
    have hholds := h.typed c hc v hv
    rw [htype] at hholds
    cases v <;> first | rfl | cases hholds

end Fits

theorem mem_three {α : Type} {a x y z : α} (h : a ∈ [x, y, z]) : a = x ∨ a = y ∨ a = z := by
  simpa using h

theorem eq_members_task {verb : WriteVerb} {m : Members} (h : Fits (writeRole verb) periodicTask m) :
    ∀ c ∈ columnNames (writeRole verb) periodicTask, m c = (TaskValues.of m).members c := by
  intro c hc
  cases verb with
  | insert =>
    obtain rfl | rfl | rfl := mem_three hc
    · exact eq_text h (by decide)
    · exact eq_text h (by decide)
    · exact eq_integer h (by decide)
  | replace =>
    obtain rfl | hc := List.mem_cons.1 hc
    · exact eq_integer h (by decide)
    obtain rfl | rfl | rfl := mem_three hc
    · exact eq_text h (by decide)
    · exact eq_text h (by decide)
    · exact eq_integer h (by decide)

theorem eq_members_change {verb : WriteVerb} {m : Members}
    (h : Fits (writeRole verb) statusChange m) :
    ∀ c ∈ columnNames (writeRole verb) statusChange, m c = (ChangeValues.of m).members c := by
  intro c hc
  cases verb with
  | insert =>
    obtain rfl | rfl | rfl := mem_three hc
    · exact eq_integer h (by decide)
    · exact eq_text h (by decide)
    · exact eq_text h (by decide)
  | replace =>
    obtain rfl | rfl | rfl := mem_three hc
    · exact eq_integer h (by decide)
    · exact eq_text h (by decide)
    · exact eq_text h (by decide)

theorem eq_members_completion {verb : WriteVerb} {m : Members}
    (h : Fits (writeRole verb) doneTask m) :
    ∀ c ∈ columnNames (writeRole verb) doneTask, m c = (CompletionValues.of m).members c := by
  intro c hc
  cases verb with
  | insert =>
    obtain rfl | hc := List.mem_cons.1 hc
    · exact eq_integer h (by decide)
    obtain rfl := List.mem_singleton.1 hc
    exact eq_text h (by decide)
  | replace =>
    obtain rfl | rfl | rfl := mem_three hc
    · exact eq_integer h (by decide)
    · exact eq_integer h (by decide)
    · exact eq_text h (by decide)

/-! ## Rows as they are supplied -/

/-- The row that fields supply, each for the column of its name. -/
def suppliedRow (t : StoredTable) (fields : Fields) : NewRow :=
  newRow t (fields.names.map t.position?) (fields.map fun field => boundValue field.2)

/-- A row that supplies these values and asks for this id. -/
def Supplies (t : StoredTable) (row : NewRow) (values : List Value) (id : Option Int) : Prop :=
  storedValues t row.values = .ok values ∧ requestedId row = .ok id

namespace Records

variable (r : Records)

/-- A table with its rows. -/
def stored : TableName → StoredTable
  | .tasks => r.taskTable
  | .changes => r.changeTable
  | .completions => r.completionTable

theorem name_stored (k : TableName) : (r.stored k).name = k.table.name := by
  cases k <;> rfl

theorem table?_stored (k : TableName) : r.main.table? k.table.name = some (r.stored k) := by
  cases k <;> rfl

theorem rowsOf_stored (k : TableName) :
    r.database.rowsOf k.table.name = (r.stored k).rows := by
  cases k <;> rfl

/-- What a row supplies does not depend on the rows that are there. -/
theorem suppliedRow_stored (k : TableName) (r' : Records) (fields : Fields) :
    suppliedRow (r.stored k) fields = suppliedRow (r'.stored k) fields := by
  cases k <;> rfl

theorem supplies_task (verb : WriteVerb) {v : TaskValues} (hid : verb = .insert → v.id = none) :
    Supplies r.taskTable
      (suppliedRow r.taskTable (boundFields (writeRole verb) periodicTask v.members)) v.stored
      v.id := by
  obtain ⟨id, name, startAt, interval⟩ := v
  cases verb with
  | insert =>
    obtain rfl : id = none := hid rfl
    have hfields : boundFields .insert periodicTask
        (TaskValues.members ⟨none, name, startAt, interval⟩) =
      [("name", orNull .text name), ("startAt", orNull .text startAt),
        ("intervalDay", orNull .integer interval)] := rfl
    rw [writeRole, hfields]
    cases name <;> cases startAt <;> cases interval <;> exact ⟨rfl, rfl⟩
  | replace =>
    have hfields : boundFields .replace periodicTask
        (TaskValues.members ⟨id, name, startAt, interval⟩) =
      ("id", orNull .integer id) :: [("name", name.map Value.text), ("startAt", startAt.map .text),
        ("intervalDay", interval.map .integer)].filterMap fun p => p.2.map fun v => (p.1, v) := rfl
    rw [writeRole, hfields]
    cases id <;> cases name <;> cases startAt <;> cases interval <;> exact ⟨rfl, rfl⟩

theorem supplies_change (verb : WriteVerb) (v : ChangeValues) :
    Supplies r.changeTable
      (suppliedRow r.changeTable (boundFields (writeRole verb) statusChange v.members)) v.stored
      none := by
  obtain ⟨task, changedAt, status⟩ := v
  cases verb with
  | insert =>
    have hfields : boundFields .insert statusChange
        (ChangeValues.members ⟨task, changedAt, status⟩) =
      [("periodicTaskId", orNull .integer task), ("changedAt", orNull .text changedAt),
        ("status", orNull .text status)] := rfl
    rw [writeRole, hfields]
    cases task <;> cases changedAt <;> cases status <;> exact ⟨rfl, rfl⟩
  | replace =>
    have hfields : boundFields .replace statusChange
        (ChangeValues.members ⟨task, changedAt, status⟩) =
      [("periodicTaskId", task.map Value.integer), ("changedAt", changedAt.map .text),
        ("status", status.map .text)].filterMap fun p => p.2.map fun v => (p.1, v) := rfl
    rw [writeRole, hfields]
    cases task <;> cases changedAt <;> cases status <;> exact ⟨rfl, rfl⟩

theorem supplies_completion (verb : WriteVerb) {v : CompletionValues}
    (hid : verb = .insert → v.id = none) :
    Supplies r.completionTable
      (suppliedRow r.completionTable (boundFields (writeRole verb) doneTask v.members)) v.stored
      v.id := by
  obtain ⟨id, task, doneAt⟩ := v
  cases verb with
  | insert =>
    obtain rfl : id = none := hid rfl
    have hfields : boundFields .insert doneTask (CompletionValues.members ⟨none, task, doneAt⟩) =
      [("periodicTaskId", orNull .integer task), ("doneAt", orNull .text doneAt)] := rfl
    rw [writeRole, hfields]
    cases task <;> cases doneAt <;> exact ⟨rfl, rfl⟩
  | replace =>
    have hfields : boundFields .replace doneTask (CompletionValues.members ⟨id, task, doneAt⟩) =
      ("id", orNull .integer id) :: [("periodicTaskId", task.map Value.integer),
        ("doneAt", doneAt.map .text)].filterMap fun p => p.2.map fun v => (p.1, v) := rfl
    rw [writeRole, hfields]
    cases id <;> cases task <;> cases doneAt <;> exact ⟨rfl, rfl⟩

/-- What members supply for a row of a table. -/
def suppliedValues (m : Members) : TableName → List Value
  | .tasks => (TaskValues.of m).stored
  | .changes => (ChangeValues.of m).stored
  | .completions => (CompletionValues.of m).stored

/-- The id that members ask for. -/
def suppliedId (m : Members) : TableName → Option Int
  | .tasks => (TaskValues.of m).id
  | .changes => none
  | .completions => (CompletionValues.of m).id

/-- **What a parameter struct supplies.** -/
theorem supplies_params {verb : WriteVerb} {k : TableName} (p : Params (writeRole verb) k.table) :
    Supplies (r.stored k) (suppliedRow (r.stored k) (rowFields p)) (suppliedValues p.value k)
      (suppliedId p.value k) := by
  have hid : verb = .insert → integer? (p.value "id") = none := by
    rintro rfl
    rw [p.fits.others "id" (by cases k <;> decide)]
    rfl
  cases k with
  | tasks =>
    have hfields : rowFields p = _ := boundFields_congr (eq_members_task p.fits)
    rw [hfields]
    exact r.supplies_task verb hid
  | changes =>
    have hfields : rowFields p = _ := boundFields_congr (eq_members_change p.fits)
    rw [hfields]
    exact r.supplies_change verb _
  | completions =>
    have hfields : rowFields p = _ := boundFields_congr (eq_members_completion p.fits)
    rw [hfields]
    exact r.supplies_completion verb hid

end Records

end Tablewright.Tracker
