import Tablewright.Proofs.Tracker.References

/-!
# Writing rows of any texts

What a write does to the records, given what it supplies for a row: `Records.writeTask` and its kin
say which failure comes first, and what the tables hold if there is none. They are what the database
does (`writeRow_task` and its kin).
-/

namespace Tablewright.Tracker

open Sql Database

/-! ## Rows to be -/

/-- What a write supplies for a task; where it supplies nothing, the column takes NULL. -/
structure TaskValues where
  id : Option Int
  name : Option String
  startAt : Option String
  intervalDay : Option Int
  deriving DecidableEq, Repr

/-- What a write supplies for a change of status. -/
structure ChangeValues where
  task : Option Int
  changedAt : Option String
  status : Option String
  deriving DecidableEq, Repr

/-- What a write supplies for a completion. -/
structure CompletionValues where
  id : Option Int
  task : Option Int
  doneAt : Option String
  deriving DecidableEq, Repr

/-- The values of the columns. -/
def TaskValues.stored (v : TaskValues) : List Value :=
  [orNull .integer v.id, orNull .text v.name, orNull .text v.startAt, orNull .integer v.intervalDay]

/-- The values of the columns. -/
def ChangeValues.stored (v : ChangeValues) : List Value :=
  [orNull .integer v.task, orNull .text v.changedAt, orNull .text v.status]

/-- The values of the columns. -/
def CompletionValues.stored (v : CompletionValues) : List Value :=
  [orNull .integer v.id, orNull .integer v.task, orNull .text v.doneAt]

/-- The id of a new row: the one that is asked for, or the next one. -/
def newId (t : StoredTable) : Option Int → Except Failure Int
  | some id => .ok id
  | none => nextId t

/-- What is supplied for a column that does not take NULL. -/
def nonNull {α : Type} (table column : String) : Option α → Except Failure α
  | some a => .ok a
  | none => .error (.notNull table column)

theorem eq_some_of_nonNull {α : Type} {table column : String} {o : Option α} {a : α}
    (h : nonNull table column o = .ok a) : o = some a := by
  cases o with
  | none => cases h
  | some b => cases h; rfl

/-- The conditions on a task: it has a name, and its interval is positive. -/
def TaskRecord.check (t : TaskRecord) : Except Failure Unit :=
  if t.name = "" then .error (.check "name != ''")
  else if t.intervalDay.any (· ≤ 0) then .error (.check "intervalDay > 0")
  else .ok ()

/-- Put an item into its place in the order of ids. -/
def insertById {α : Type} (id : α → Int) (a : α) : List α → List α
  | [] => [a]
  | b :: rest => if id a < id b then a :: b :: rest else b :: insertById id a rest

theorem perm_insertById {α : Type} (id : α → Int) (a : α) (l : List α) :
    (insertById id a l).Perm (a :: l) := by
  induction l with
  | nil => exact .refl _
  | cons b rest ih =>
    rw [insertById]
    split
    · exact .refl _
    · exact (ih.cons b).trans (.swap a b rest)

theorem mem_insertById {α : Type} {id : α → Int} {a b : α} {l : List α} :
    b ∈ insertById id a l ↔ b = a ∨ b ∈ l := by
  rw [(perm_insertById id a l).mem_iff, List.mem_cons]

theorem insertInOrder_map {α : Type} (f : α → Row) (id : α → Int) (h : ∀ a, (f a).id = id a) (a : α)
    (l : List α) : insertInOrder (f a) (l.map f) = (insertById id a l).map f := by
  induction l with
  | nil => rfl
  | cons b rest ih =>
    rw [List.map_cons, insertInOrder, insertById, ih, h, h]
    split <;> rfl

/-- An item with a greater id than all others comes last. -/
theorem insertById_of_lt {α : Type} {id : α → Int} {a : α} {l : List α}
    (h : ∀ b ∈ l, id b < id a) : insertById id a l = l ++ [a] := by
  induction l with
  | nil => rfl
  | cons b rest ih =>
    have := h b (by simp)
    rw [insertById, if_neg (by omega), ih fun c hc => h c (List.mem_cons_of_mem b hc)]
    rfl

namespace Records

variable (r : Records)

/-! ## Tasks -/

/-- The records with a new task, its id counted. -/
def withTask (t : TaskRecord) : Records :=
  { r with tasks := insertById (·.id) t r.tasks, taskCounter := max r.taskCounter t.id }

/-- The records in which a task may have the given id: a replacing write deletes the one that
has it. -/
def freeTask (verb : WriteVerb) (id : Int) : Except Failure Records :=
  match verb with
  | .insert => if r.hasTask id then .error (.primaryKey ["periodicTask.id"]) else .ok r
  | .replace => .ok (r.withoutTasks (·.id == id))

/-- Write a task; its id comes with the records. -/
def writeTask (verb : WriteVerb) (v : TaskValues) : Except Failure (Records × Int) := do
  let id ← newId r.taskTable v.id
  let name ← nonNull "periodicTask" "name" v.name
  let startAt ← nonNull "periodicTask" "startAt" v.startAt
  let t : TaskRecord := ⟨id, name, startAt, v.intervalDay⟩
  t.check
  let free ← r.freeTask verb id
  return (free.withTask t, id)

/-- A task that is written has an id that no other task has by then. -/
theorem exists_of_writeTask {verb : WriteVerb} {v : TaskValues} {p : Records × Int}
    (h : r.writeTask verb v = .ok p) :
    ∃ t free, t.id = p.2 ∧ r.freeTask verb p.2 = .ok free ∧ p.1 = free.withTask t := by
  rw [writeTask] at h
  obtain ⟨_, -, h⟩ := exists_of_bind_eq_ok h
  obtain ⟨name, -, h⟩ := exists_of_bind_eq_ok h
  obtain ⟨startAt, -, h⟩ := exists_of_bind_eq_ok h
  obtain ⟨_, -, h⟩ := exists_of_bind_eq_ok h
  obtain ⟨free, hfree, h⟩ := exists_of_bind_eq_ok h
  cases h
  exact ⟨_, free, rfl, hfree, rfl⟩

theorem hasTask_of_freeTask {verb : WriteVerb} {id : Int} {free : Records}
    (h : r.freeTask verb id = .ok free) : free.hasTask id = false := by
  cases verb with
  | insert =>
    rw [freeTask] at h
    split at h
    · cases h
    · cases h
      rename_i hid
      exact Bool.eq_false_iff.2 hid
  | replace =>
    cases h
    rw [Bool.eq_false_iff]
    intro hid
    obtain ⟨t, ht, rfl⟩ := hasTask_iff _ |>.1 hid
    have := (List.mem_filter.1 ht).2
    simp at this

theorem tasks_sublist_of_freeTask {verb : WriteVerb} {id : Int} {free : Records}
    (h : r.freeTask verb id = .ok free) : free.tasks.Sublist r.tasks := by
  cases verb with
  | insert =>
    rw [freeTask] at h
    split at h
    · cases h
    · cases h
      exact .refl _
  | replace =>
    cases h
    exact List.filter_sublist

theorem checkConditions_task (t : TaskRecord) : checkConditions r.taskTable t.row = t.check := by
  have hname : (Expr.binary .notEqual (.name none "name" false) (.literal (.text ""))).eval
      (Database.empty.environment unbound [[r.taskTable.frame t.row]]) =
        .ok (.ofTruth (some (compareText t.name "" != .eq))) := by rfl
  have hinterval : (Expr.binary .greater (.name none "intervalDay" false)
      (.literal (.integer 0))).eval (Database.empty.environment unbound [[r.taskTable.frame t.row]]) =
        .ok (.ofTruth (t.intervalDay.map fun n => compare n 0 == .gt)) := by
    cases h : t.intervalDay <;> simp only [TaskRecord.row, h] <;> rfl
  rw [checkConditions, show r.taskTable.checks = [(_, _), (_, _)] from rfl]
  simp only [List.forM_eq_forM, List.forM_cons, List.forM_nil, hname, hinterval, ok_bind,
    Value.truth_ofTruth, TaskRecord.check, bne, compareText_beq_eq, compareInt_beq_gt]
  by_cases hempty : t.name = ""
  · simp [hempty]
    rfl
  · cases t.intervalDay with
    | none => simp [hempty]; rfl
    | some n =>
      by_cases hn : n ≤ 0
      · have : ¬0 < n := by omega
        simp [hempty, hn, this]
        rfl
      · have : 0 < n := by omega
        simp [hempty, hn, this]
        rfl

theorem fillNulls_task (verb : WriteVerb) (id : Int) (v : TaskValues) :
    fillNulls verb r.taskTable (withRowid r.taskTable (.integer id) v.stored) = (do
      let name ← nonNull "periodicTask" "name" v.name
      let startAt ← nonNull "periodicTask" "startAt" v.startAt
      return (TaskRecord.row ⟨id, name, startAt, v.intervalDay⟩).values) := by
  obtain ⟨_, name, startAt, interval⟩ := v
  cases verb <;> cases name <;> cases startAt <;> cases interval <;> rfl

theorem any_task_id (id : Int) : (r.taskTable.rows.any fun other => other.id == id) =
    r.hasTask id := by
  have : r.taskTable.rows = r.tasks.map (·.row) := rfl
  rw [this, List.any_map]
  rfl

theorem withoutTasks_of_not_hasTask {id : Int} (h : r.hasTask id = false) :
    r.withoutTasks (·.id == id) = r := by
  have htasks : r.tasks.filter (fun t => !(t.id == id)) = r.tasks := by
    refine List.filter_eq_self.2 fun t ht => ?_
    rw [hasTask, List.any_eq_false] at h
    simpa using h t ht
  have hsame : r.keeps r = fun _ => true := funext fun task => r.keeps_of_tasks_eq rfl task
  rw [withoutTasks, htasks, withoutLost, hsame, List.filter_true, List.filter_true]

theorem freeKeys_task (verb : WriteVerb) (t : TaskRecord) :
    freeKeys verb r.main r.taskTable t.row = (r.freeTask verb t.id).map (·.main) := by
  have hkeys : freeKeys verb r.main r.taskTable t.row =
      (freeKey verb r.main "periodicTask" rowidTaken fun other => other.id == t.id) >>= fun s =>
        (s.uniqueKeys r.taskTable).foldlM (fun s k => freeKey verb s "periodicTask"
          (keyTaken · k) fun other => takesKey k t.row other) s := by
    rfl
  rw [hkeys, freeKey, table?_task]
  simp only [any_task_id]
  cases verb with
  | insert =>
    rw [freeTask]
    cases r.hasTask t.id <;> rfl
  | replace =>
    cases hid : r.hasTask t.id with
    | false =>
      rw [freeTask, r.withoutTasks_of_not_hasTask hid]
      rfl
    | true =>
      have hdelete : deleteRows r.main r.taskTable (fun other => other.id == t.id) =
          .ok (r.withoutTasks (·.id == t.id)).main := r.deleteRows_task fun _ _ => rfl
      simp only [Bool.not_true, Bool.false_eq_true, if_false, hdelete]
      rfl

theorem addRowTo_task (t : TaskRecord) :
    addRowTo r.main "periodicTask" t.row = .ok (r.withTask t).main := by
  have : addRow r.taskTable t.row = (r.withTask t).taskTable := by
    change { r.taskTable with
      rows := insertInOrder t.row (r.tasks.map TaskRecord.row)
      counter := max r.taskCounter t.id } = _
    rw [insertInOrder_map TaskRecord.row TaskRecord.id fun _ => rfl]
    rfl
  rw [addRowTo, table?_task]
  simp only [this]
  rfl

/-- **A task is written** as `writeTask` says. -/
theorem writeRow_task (verb : WriteVerb) (atOnce : Bool) {n : NewRow} {v : TaskValues}
    (hvalues : storedValues r.taskTable n.values = .ok v.stored)
    (hid : requestedId n = .ok v.id) :
    writeRow verb atOnce r.database .main r.taskTable n =
      (r.writeTask verb v).map fun p => (p.1.database, p.2) := by
  have hrowid : rowId r.taskTable n = newId r.taskTable v.id := by
    rw [rowId, hid, ok_bind]
    cases v.id <;> rfl
  have hbefore : (!(r.database.eventTriggers .main "periodicTask" .before .insert).isEmpty) =
      false := by rfl
  have hafter : ∀ (r' : Records) (row), r'.database.fireAll .main .after .insert row
      "periodicTask" = .ok () := fun _ _ => rfl
  rw [writeRow_eq, hvalues, ok_bind, hrowid, writeTask]
  simp only [name_taskTable, hbefore, Bool.false_eq_true, if_false]
  cases newId r.taskTable v.id with
  | error e => rfl
  | ok id =>
    simp only [ok_bind, fillNulls_task]
    cases nonNull "periodicTask" "name" v.name with
    | error e => rfl
    | ok name =>
      cases nonNull "periodicTask" "startAt" v.startAt with
      | error e => rfl
      | ok startAt =>
        have hrow : (⟨id, (TaskRecord.row ⟨id, name, startAt, v.intervalDay⟩).values⟩ : Row) =
          TaskRecord.row ⟨id, name, startAt, v.intervalDay⟩ := rfl
        simp only [ok_bind, pure, Except.pure, hrow, checkConditions_task]
        cases TaskRecord.check ⟨id, name, startAt, v.intervalDay⟩ with
        | error e => rfl
        | ok _ =>
          simp only [ok_bind, schema_main, freeKeys_task]
          cases r.freeTask verb id with
          | error e => rfl
          | ok free =>
            have horphan : ∀ s, isOrphanOf s r.taskTable
                (TaskRecord.row ⟨id, name, startAt, v.intervalDay⟩) = false := fun _ => rfl
            simp only [Except.map, ok_bind, addRowTo_task, horphan, Bool.and_false,
              Bool.false_eq_true, if_false, setSchema_main, hafter]

/-! ## Completions -/

/-- The records with a new completion, its id counted. -/
def withCompletion (x : CompletionRecord) : Records :=
  { r with
    completions := insertById (·.id) x r.completions
    completionCounter := max r.completionCounter x.id }

/-- Whether there is a completion with the given id. -/
def hasCompletion (id : Int) : Bool :=
  r.completions.any (·.id == id)

/-- The records in which a completion may have the given id. -/
def freeCompletion (verb : WriteVerb) (id : Int) : Except Failure Records :=
  match verb with
  | .insert => if r.hasCompletion id then .error (.primaryKey ["doneTask.id"]) else .ok r
  | .replace => .ok (r.withoutCompletions (·.id == id))

/-- Write a completion; its id comes with the records. Whether its task is there is found out
later. -/
def writeCompletion (verb : WriteVerb) (v : CompletionValues) : Except Failure (Records × Int) := do
  let id ← newId r.completionTable v.id
  let task ← nonNull "doneTask" "periodicTaskId" v.task
  let doneAt ← nonNull "doneTask" "doneAt" v.doneAt
  let free ← r.freeCompletion verb id
  return (free.withCompletion ⟨id, task, doneAt⟩, id)

theorem fillNulls_completion (verb : WriteVerb) (id : Int) (v : CompletionValues) :
    fillNulls verb r.completionTable (withRowid r.completionTable (.integer id) v.stored) = (do
      let task ← nonNull "doneTask" "periodicTaskId" v.task
      let doneAt ← nonNull "doneTask" "doneAt" v.doneAt
      return (CompletionRecord.row ⟨id, task, doneAt⟩).values) := by
  obtain ⟨_, task, doneAt⟩ := v
  cases verb <;> cases task <;> cases doneAt <;> rfl

theorem any_completion_id (id : Int) : (r.completionTable.rows.any fun other => other.id == id) =
    r.hasCompletion id := by
  have : r.completionTable.rows = r.completions.map (·.row) := rfl
  rw [this, List.any_map]
  rfl

theorem freeKeys_completion (verb : WriteVerb) (x : CompletionRecord) :
    freeKeys verb r.main r.completionTable x.row = (r.freeCompletion verb x.id).map (·.main) := by
  have hkeys : freeKeys verb r.main r.completionTable x.row =
      (freeKey verb r.main "doneTask" rowidTaken fun other => other.id == x.id) >>= fun s =>
        (s.uniqueKeys r.completionTable).foldlM (fun s k => freeKey verb s "doneTask"
          (keyTaken · k) fun other => takesKey k x.row other) s := by
    rfl
  rw [hkeys, freeKey, table?_completion]
  simp only [any_completion_id]
  cases verb with
  | insert =>
    rw [freeCompletion]
    cases r.hasCompletion x.id <;> rfl
  | replace =>
    cases hid : r.hasCompletion x.id with
    | false =>
      have hsame : r.withoutCompletions (·.id == x.id) = r := by
        rw [hasCompletion, List.any_eq_false] at hid
        have : r.completions.filter (fun y => !(y.id == x.id)) = r.completions :=
          List.filter_eq_self.2 fun y hy => by simpa using hid y hy
        rw [withoutCompletions, this]
      rw [freeCompletion, hsame]
      rfl
    | true =>
      have hdelete : deleteRows r.main r.completionTable (fun other => other.id == x.id) =
          .ok (r.withoutCompletions (·.id == x.id)).main := r.deleteRows_completion fun _ _ => rfl
      simp only [Bool.not_true, Bool.false_eq_true, if_false, hdelete]
      rfl

theorem addRowTo_completion (x : CompletionRecord) :
    addRowTo r.main "doneTask" x.row = .ok (r.withCompletion x).main := by
  have : addRow r.completionTable x.row = (r.withCompletion x).completionTable := by
    change { r.completionTable with
      rows := insertInOrder x.row (r.completions.map CompletionRecord.row)
      counter := max r.completionCounter x.id } = _
    rw [insertInOrder_map CompletionRecord.row CompletionRecord.id fun _ => rfl]
    rfl
  rw [addRowTo, table?_completion]
  simp only [this]
  rfl

/-- **A completion is written** as `writeCompletion` says; if its task has to be there at once, it
is found out here that it is not. -/
theorem writeRow_completion (verb : WriteVerb) (atOnce : Bool) {n : NewRow} {v : CompletionValues}
    (hvalues : storedValues r.completionTable n.values = .ok v.stored)
    (hid : requestedId n = .ok v.id) :
    writeRow verb atOnce r.database .main r.completionTable n = (do
      let p ← r.writeCompletion verb v
      if atOnce && !v.task.any p.1.hasTask then throw .foreignKey
      return (p.1.database, p.2)) := by
  have hrowid : rowId r.completionTable n = newId r.completionTable v.id := by
    rw [rowId, hid, ok_bind]
    cases v.id <;> rfl
  have hbefore : (!(r.database.eventTriggers .main "doneTask" .before .insert).isEmpty) =
      false := by rfl
  have hafter : ∀ (r' : Records) (row), r'.database.fireAll .main .after .insert row
      "doneTask" = .ok () := fun _ _ => rfl
  have hchecks : ∀ row, checkConditions r.completionTable row = .ok () := fun _ => rfl
  have horphan : ∀ (r' : Records) (x : CompletionRecord),
      isOrphanOf r'.main r.completionTable x.row = !r'.hasTask x.task :=
    fun r' x => r'.isOrphanOf_completion x
  rw [writeRow_eq, hvalues, ok_bind, hrowid, writeCompletion]
  simp only [name_completionTable, hbefore, Bool.false_eq_true, if_false, bind_assoc]
  cases newId r.completionTable v.id with
  | error e => rfl
  | ok id =>
    simp only [ok_bind, fillNulls_completion]
    cases htask : v.task with
    | none => rfl
    | some task =>
      cases nonNull "doneTask" "doneAt" v.doneAt with
      | error e => rfl
      | ok doneAt =>
        have hrow : (⟨id, (CompletionRecord.row ⟨id, task, doneAt⟩).values⟩ : Row) =
          CompletionRecord.row ⟨id, task, doneAt⟩ := rfl
        simp only [nonNull, ok_bind, pure, Except.pure, hrow, hchecks, schema_main,
          freeKeys_completion]
        cases r.freeCompletion verb id with
        | error e => rfl
        | ok free =>
          simp only [Except.map, ok_bind, addRowTo_completion, horphan, setSchema_main, hafter,
            Option.any_some]

end Records

end Tablewright.Tracker
