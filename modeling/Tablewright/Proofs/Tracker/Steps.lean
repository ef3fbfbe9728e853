import Tablewright.Proofs.Tracker.References

/-!
# What the operations do to the contents

The operations of the tracker as functions on the contents of its tables. Each one says which
failure comes first, and what the tables hold if there is none; `addTask_cases` and its kin are the
cases.
-/

namespace Tablewright.Tracker

open Sql Database

/-- The conditions on a task: it has a name, and its interval is positive. -/
def NewTask.check (t : NewTask) : Except Failure Unit :=
  if t.name = "" then .error (.check "name != ''")
  else if t.intervalDay.any (· ≤ 0) then .error (.check "intervalDay > 0")
  else .ok ()

namespace Contents

variable (c : Contents)

/-! ## Tasks -/

/-- Put a task into its place in the order of ids. -/
def insertTask (t : StoredTask) : List StoredTask → List StoredTask
  | [] => [t]
  | other :: rest => if t.id < other.id then t :: other :: rest else other :: insertTask t rest

/-- The contents with a new task, its id counted. -/
def withTask (t : StoredTask) : Contents :=
  { c with tasks := insertTask t c.tasks, taskCounter := max c.taskCounter t.id }

/-- The contents without a task, its completions and its changes of status. -/
def withoutTask (id : Int) : Contents :=
  { c with
    tasks := c.tasks.filter (·.id != id)
    changes := c.changes.filter (·.task != id)
    completions := c.completions.filter (·.task != id) }

/-- Add a task under the next id. -/
def addTask (t : NewTask) : Except Failure Contents := do
  let id ← nextId c.taskTable
  t.check
  return c.withTask ⟨id, t⟩

/-- Add tasks, one after the other. -/
def addTasks (ts : List NewTask) : Except Failure Contents :=
  ts.foldlM addTask c

/-- Put a task in the place of another one, which goes with all that refers to it. -/
def replaceTask (id : Int) (t : NewTask) : Except Failure Contents := do
  t.check
  return (c.withoutTask id).withTask ⟨id, t⟩

/-! ## Completions and changes of status -/

/-- The contents with a new completion, its id counted. -/
def withCompletion (x : Completion) : Contents :=
  { c with
    completions := c.completions ++ [x]
    completionCounter := max c.completionCounter x.id }

/-- Note a completion. -/
def complete (id : Int) (now : Timestamp) : Except Failure Contents := do
  let rowid ← nextId c.completionTable
  if c.hasTask id then return c.withCompletion ⟨rowid, id, now⟩
  throw .foreignKey

/-- The contents with a new change of status. -/
def withChange (x : StatusChange) : Contents :=
  { c with changes := c.changes ++ [x] }

/-- Whether a change is later than another one, as their texts compare. -/
def isLater (x y : StatusChange) : Bool :=
  compareText x.changedAt.toText y.changedAt.toText == .gt

/-- Whether a task has a change to the given status and none that is later. -/
def isCurrent (id : Int) (status : TaskStatus) : Bool :=
  c.changes.any fun x => x.task == id && x.status == status &&
    !(c.changes.any fun y => y.task == id && isLater y x)

/-- What a change to the present status is refused with. -/
def statusTaken : Failure :=
  .raised .fail "status is already changed"

/-- Note a change of status. -/
def changeStatus (id : Int) (status : TaskStatus) (now : Timestamp) :
    Except Failure Contents := do
  if c.isCurrent id status then throw statusTaken
  let rowid ← nextId c.changeTable
  if c.hasTask id then return c.withChange ⟨rowid, id, now, status⟩
  throw .foreignKey

/-- The contents after a step that may fail. -/
def after : Except Failure Contents → Contents
  | .ok c' => c'
  | .error _ => c

/-! ## What a step can do -/

theorem isOfRow_of_check {t : NewTask} {e : Failure} (h : t.check = .error e) :
    isOfRow e = true := by
  rw [NewTask.check] at h
  split at h
  · cases h; rfl
  · split at h
    · cases h; rfl
    · cases h

/-- A task is refused as its row is, or added under the next id. -/
theorem addTask_cases (t : NewTask) :
    (∃ e, isOfRow e = true ∧ c.addTask t = .error e) ∨
      ∃ id, nextId c.taskTable = .ok id ∧ t.check = .ok () ∧
        c.addTask t = .ok (c.withTask ⟨id, t⟩) := by
  rw [addTask]
  cases hnext : nextId c.taskTable with
  | error e => exact .inl ⟨e, isOfRow_of_nextId hnext, rfl⟩
  | ok id =>
    cases hcheck : t.check with
    | error e => exact .inl ⟨e, isOfRow_of_check hcheck, rfl⟩
    | ok _ => exact .inr ⟨id, rfl, rfl, rfl⟩

/-- What adding one task preserves is preserved by adding several. -/
theorem addTasks_induction {p : Contents → Prop} {ts : List NewTask} {c c' : Contents}
    (hadd : c.addTasks ts = .ok c') (hc : p c)
    (hstep : ∀ c t id, t ∈ ts → nextId c.taskTable = .ok id → p c → p (c.withTask ⟨id, t⟩)) :
    p c' := by
  induction ts generalizing c with
  | nil => cases hadd; exact hc
  | cons t ts ih =>
    rw [addTasks, List.foldlM_cons] at hadd
    obtain ⟨e, -, he⟩ | ⟨id, hnext, -, hok⟩ := c.addTask_cases t
    · rw [he] at hadd
      cases hadd
    · rw [hok, ok_bind] at hadd
      exact ih hadd (hstep c t id (by simp) hnext hc)
        fun c u id hu => hstep c u id (List.mem_cons_of_mem t hu)

/-- A replacement is refused as its row is, or takes the place of what was there. -/
theorem replaceTask_cases (id : Int) (t : NewTask) :
    (∃ e, isOfRow e = true ∧ c.replaceTask id t = .error e) ∨
      (t.check = .ok () ∧ c.replaceTask id t = .ok ((c.withoutTask id).withTask ⟨id, t⟩)) := by
  rw [replaceTask]
  cases hcheck : t.check with
  | error e => exact .inl ⟨e, isOfRow_of_check hcheck, rfl⟩
  | ok _ => exact .inr ⟨rfl, rfl⟩

/-- A completion is refused as its row is, or refers to a task that is there. -/
theorem complete_cases (id : Int) (now : Timestamp) :
    (∃ e, isOfRow e = true ∧ c.complete id now = .error e) ∨
      ∃ rowid, nextId c.completionTable = .ok rowid ∧ c.hasTask id = true ∧
        c.complete id now = .ok (c.withCompletion ⟨rowid, id, now⟩) := by
  rw [complete]
  cases hnext : nextId c.completionTable with
  | error e => exact .inl ⟨e, isOfRow_of_nextId hnext, rfl⟩
  | ok rowid =>
    cases c.hasTask id with
    | false => exact .inl ⟨.foreignKey, rfl, rfl⟩
    | true => exact .inr ⟨rowid, rfl, rfl, rfl⟩

/-- A change of status is refused by the trigger, refused as its row is, refers to no task, or is
noted. -/
theorem changeStatus_cases (id : Int) (status : TaskStatus) (now : Timestamp) :
    (c.isCurrent id status = true ∧ c.changeStatus id status now = .error statusTaken) ∨
    (c.isCurrent id status = false ∧
      ((∃ e, isOfRow e = true ∧ nextId c.changeTable = .error e ∧
        c.changeStatus id status now = .error e) ∨
      ∃ rowid, nextId c.changeTable = .ok rowid ∧
        ((c.hasTask id = false ∧ c.changeStatus id status now = .error .foreignKey) ∨
        (c.hasTask id = true ∧ c.changeStatus id status now =
          .ok (c.withChange ⟨rowid, id, now, status⟩))))) := by
  rw [changeStatus]
  cases c.isCurrent id status with
  | true => exact .inl ⟨rfl, rfl⟩
  | false =>
    refine .inr ⟨rfl, ?_⟩
    cases hnext : nextId c.changeTable with
    | error e => exact .inl ⟨e, isOfRow_of_nextId hnext, rfl, rfl⟩
    | ok rowid =>
      refine .inr ⟨rowid, rfl, ?_⟩
      cases c.hasTask id with
      | false => exact .inl ⟨rfl, rfl⟩
      | true => exact .inr ⟨rfl, rfl⟩

end Contents

end Tablewright.Tracker
