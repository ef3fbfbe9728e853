import Tablewright.Proofs.Tracker.RecordSteps
import Tablewright.Proofs.Tracker.Steps

/-!
# The trigger on changes of status

A change of status is refused by the trigger if a change of its task has its status and no other
one of the task is later, as texts compare (`fireAll_statusTrigger`). A change without a task or a
status is not refused by the trigger: what is NULL is equal to nothing.
-/

namespace Tablewright.Tracker

open Sql Database
open Contents (statusTaken)

/-- Whether a change is later than another one, as their texts compare. -/
def ChangeRecord.isLater (x y : ChangeRecord) : Bool :=
  compareText x.changedAt y.changedAt == .gt

/-- The condition on a change of status: its status is one of the two words. -/
def ChangeRecord.check (x : ChangeRecord) : Except Failure Unit :=
  if x.status = "open" ∨ x.status = "close" then .ok ()
  else .error (.check "status IN ('open', 'close')")

namespace Records

variable (r : Records) (v : ChangeValues)

/-- Whether a change has the status of a new one of the same task, and no other is later. -/
def isLatestTo (x : ChangeRecord) : Bool :=
  v.task == some x.task && v.status == some x.status &&
    !(r.changes.any fun y => v.task == some y.task && y.isLater x)

/-- Whether the task of a new change has its status already. -/
def isCurrent : Bool :=
  r.changes.any (r.isLatestTo v)

/-! ## What the trigger evaluates -/

section Conditions

variable (x y : ChangeRecord)

theorem table?_changes (parameter : String → Value) (scopes : Scopes) :
    (r.database.environment parameter scopes).table? "periodicTaskStatusChange" =
      some (r.changes.map fun x => r.changeTable.frame x.row, r.changeTable.nullFrame) := by
  have : r.changeTable.rows.map r.changeTable.frame =
      r.changes.map fun x => r.changeTable.frame x.row := List.map_map
  rw [← this]
  rfl

/-- What the trigger sees of a change that is about to be written. -/
def newChangeFrame : Frame :=
  eventFrame "new" r.changeTable ⟨-1, v.stored⟩

/-- What the condition on a change sees. -/
def changeEnvironment : Environment :=
  r.database.environment unbound [[r.changeTable.frame x.row], [r.newChangeFrame v]]

/-- What the condition on another change sees. -/
def anotherEnvironment : Environment :=
  (r.changeEnvironment v x).inside [(r.changeTable.frame y.row).withAlias "another"]

theorem hasTruth_task : (Contents.ofNewTask "periodicTaskStatusChange").HasTruth
    (r.changeEnvironment v x) (v.task.map (x.task == ·)) := by
  simp only [changeEnvironment, newChangeFrame, ChangeValues.stored]
  cases v.task with
  | none => rfl
  | some id =>
    rw [Option.map_some, ← compareInt_beq_eq]
    rfl

theorem hasTruth_task_around : (Contents.ofNewTask "periodicTaskStatusChange").HasTruth
    (r.anotherEnvironment v x y) (v.task.map (x.task == ·)) := by
  simp only [anotherEnvironment, changeEnvironment, newChangeFrame, ChangeValues.stored]
  cases v.task with
  | none => rfl
  | some id =>
    rw [Option.map_some, ← compareInt_beq_eq]
    rfl

theorem hasTruth_task_another : (Contents.ofNewTask "another").HasTruth
    (r.anotherEnvironment v x y) (v.task.map (y.task == ·)) := by
  simp only [anotherEnvironment, changeEnvironment, newChangeFrame, ChangeValues.stored]
  cases v.task with
  | none => rfl
  | some id =>
    rw [Option.map_some, ← compareInt_beq_eq]
    rfl

theorem hasTruth_status : (Expr.binary .equal (Contents.qualified "periodicTaskStatusChange" "status")
    (Contents.qualified "NEW" "status")).HasTruth (r.changeEnvironment v x)
      (v.status.map (x.status == ·)) := by
  simp only [changeEnvironment, newChangeFrame, ChangeValues.stored]
  cases v.status with
  | none => rfl
  | some status =>
    rw [Option.map_some, ← compareText_beq_eq]
    rfl

theorem decides_isLater :
    (Expr.binary .greater (Contents.qualified "another" "changedAt")
        (Contents.qualified "periodicTaskStatusChange" "changedAt")).Decides
      (r.anotherEnvironment v x y) (y.isLater x) := by
  rw [ChangeRecord.isLater]
  simp only [anotherEnvironment, changeEnvironment, ChangeRecord.row]
  generalize x.changedAt = a
  generalize y.changedAt = b
  rfl

theorem decides_laterChanges :
    (Expr.exists Contents.laterChanges).Decides (r.changeEnvironment v x)
      (r.changes.any fun y => v.task == some x.task && v.task == some y.task && y.isLater x) := by
  have hjoin : joinSources (r.changeEnvironment v x) [[]]
      [.table "periodicTaskStatusChange" "another" false .always] =
        .ok (r.changes.map fun y => [(r.changeTable.frame y.row).withAlias "another"]) :=
    joinSources_table (r.table?_changes unbound _)
  refine decides_exists hjoin fun y _ => ?_
  have hmeets := (((r.hasTruth_task_around v x y).and (r.hasTruth_task_another v x y)).and
    (r.decides_isLater v x y)).meets
  simp only [Truth.and_beq_true, map_beq_true, Option.some_beq_some, beq_true] at hmeets
  exact hmeets

theorem meets_isCurrentStatus :
    Contents.isCurrentStatus.Meets (r.changeEnvironment v x) (r.isLatestTo v x) := by
  have hmeets := (((r.hasTruth_task v x).and (r.hasTruth_status v x)).and
    (r.decides_laterChanges v x).not).meets
  simp only [Truth.and_beq_true, map_beq_true, Option.some_beq_some, beq_true] at hmeets
  rw [isLatestTo]
  cases htask : v.task == some x.task with
  | false =>
    simp only [htask, Bool.false_and] at hmeets ⊢
    exact hmeets
  | true =>
    simp only [htask, Bool.true_and] at hmeets ⊢
    exact hmeets

end Conditions

/-! ## What the trigger does -/

theorem eval_refuseCurrentStatus :
    Contents.refuseCurrentStatus.eval (r.database.environment unbound [[r.newChangeFrame v]]) =
      if r.isCurrent v then .error statusTaken else .ok [] := by
  have hjoin := joinSources_table (r.table?_changes unbound [[r.newChangeFrame v]])
    (a := "periodicTaskStatusChange")
  have hany : r.isCurrent v = !(r.changes.filter (r.isLatestTo v)).isEmpty := by
    rw [isCurrent, Bool.eq_iff_iff]
    simp
  rw [Contents.refuseCurrentStatus, eval_select (m := r.isLatestTo v) hjoin
    (fun x _ => r.meets_isCurrentStatus v x) rfl, hany]
  cases r.changes.filter (r.isLatestTo v) with
  | nil => simp [inOrder, pure, Except.pure, ok_bind]
  | cons x rest => rfl

theorem fireAll_statusTrigger :
    r.database.fireAll .main .before .insert (r.newChangeFrame v) "periodicTaskStatusChange" =
      if r.isCurrent v then .error statusTaken else .ok () := by
  have hfire : r.database.fireAll .main .before .insert (r.newChangeFrame v)
      "periodicTaskStatusChange" =
        [TriggerStep.query Contents.refuseCurrentStatus].forM
            (runStep (r.database.environment unbound [[r.newChangeFrame v]])) >>=
          fun _ => pure () := by
    rfl
  simp only [hfire, List.forM_eq_forM, List.forM_cons, List.forM_nil, runStep,
    eval_refuseCurrentStatus]
  cases r.isCurrent v <;> rfl

/-! ## Changes of status -/

/-- The records with a new change of status. -/
def withChange (x : ChangeRecord) : Records :=
  { r with changes := r.changes ++ [x] }

theorem refersToTasks_withChange (x : ChangeRecord) :
    (r.withChange x).refersToTasks = (r.refersToTasks && r.hasTask x.task) := by
  have : (r.withChange x).refersToTasks =
      ((r.changes ++ [x]).all (r.hasTask ·.task) && r.completions.all (r.hasTask ·.task)) := rfl
  rw [this, List.all_append, refersToTasks]
  simp only [List.all_cons, List.all_nil, Bool.and_true, Bool.and_assoc]
  rw [Bool.and_comm (r.hasTask x.task)]

/-- Write a change of status; its row id comes with the records. Whether its task is there is found
out later. -/
def writeChange : Except Failure (Records × Int) := do
  if r.isCurrent v then throw statusTaken
  let rowid ← nextId r.changeTable
  let task ← nonNull "periodicTaskStatusChange" "periodicTaskId" v.task
  let changedAt ← nonNull "periodicTaskStatusChange" "changedAt" v.changedAt
  let status ← nonNull "periodicTaskStatusChange" "status" v.status
  let x : ChangeRecord := ⟨rowid, task, changedAt, status⟩
  x.check
  return (r.withChange x, rowid)

variable {v}

/-- A change of status that is written has what is supplied for it, and the next row id. -/
theorem exists_of_writeChange {p : Records × Int} (h : r.writeChange v = .ok p) :
    ∃ x : ChangeRecord, p.1 = r.withChange x ∧ x.rowid = p.2 ∧
      v = ⟨some x.task, some x.changedAt, some x.status⟩ := by
  rw [writeChange] at h
  split at h
  · cases h
  obtain ⟨rowid, -, h⟩ := exists_of_bind_eq_ok h
  obtain ⟨task, htask, h⟩ := exists_of_bind_eq_ok h
  obtain ⟨changedAt, hchangedAt, h⟩ := exists_of_bind_eq_ok h
  obtain ⟨status, hstatus, h⟩ := exists_of_bind_eq_ok h
  obtain ⟨_, -, h⟩ := exists_of_bind_eq_ok h
  cases h
  refine ⟨_, rfl, rfl, ?_⟩
  rw [← eq_some_of_nonNull htask, ← eq_some_of_nonNull hchangedAt, ← eq_some_of_nonNull hstatus]

theorem fillNulls_change (verb : WriteVerb) (id : Int) :
    fillNulls verb r.changeTable (withRowid r.changeTable (.integer id) v.stored) = (do
      let task ← nonNull "periodicTaskStatusChange" "periodicTaskId" v.task
      let changedAt ← nonNull "periodicTaskStatusChange" "changedAt" v.changedAt
      let status ← nonNull "periodicTaskStatusChange" "status" v.status
      return (ChangeRecord.row ⟨id, task, changedAt, status⟩).values) := by
  obtain ⟨task, changedAt, status⟩ := v
  cases verb <;> cases task <;> cases changedAt <;> cases status <;> rfl

theorem checkConditions_change (x : ChangeRecord) :
    checkConditions r.changeTable x.row = x.check := by
  have hmember : member .text (.text x.status) [.text "open", .text "close"] =
      .ofTruth (some (compareText x.status "open" == .eq || compareText x.status "close" == .eq)) := by
    have : member .text (.text x.status) [.text "open", .text "close"] =
        if (compareText x.status "open" == .eq || (compareText x.status "close" == .eq || false))
        then .ofTruth (some true) else .ofTruth (some false) := rfl
    rw [this, Bool.or_false]
    generalize (compareText x.status "open" == .eq || compareText x.status "close" == .eq) = b
    cases b <;> rfl
  have heval : (Expr.inList (.name none "status" false)
      [.literal (.text "open"), .literal (.text "close")]).eval
        (Database.empty.environment unbound [[r.changeTable.frame x.row]]) =
          .ok (member .text (.text x.status) [.text "open", .text "close"]) := by
    rfl
  rw [checkConditions, show r.changeTable.checks = [(_, _)] from rfl]
  simp only [List.forM_eq_forM, List.forM_cons, List.forM_nil, heval, hmember, ok_bind,
    Value.truth_ofTruth, ChangeRecord.check, compareText_beq_eq]
  by_cases h : x.status = "open" ∨ x.status = "close"
  · have : (x.status == "open" || x.status == "close") = true := by simpa using h
    rw [this, if_pos h]
    rfl
  · have : (x.status == "open" || x.status == "close") = false := by simpa using h
    rw [this, if_neg h]
    rfl

theorem addRowTo_change {x : ChangeRecord} (h : ∀ row ∈ r.changeTable.rows, row.id < x.rowid) :
    addRowTo r.main "periodicTaskStatusChange" x.row = .ok (r.withChange x).main := by
  have : r.changeTable.rows ++ [x.row] = (r.changes ++ [x]).map (·.row) := by
    rw [List.map_append]
    rfl
  rw [← name_changeTable r, addRowTo_of_lt r.table?_change h, this]
  rfl

/-- **A change of status is written** as `writeChange` says. -/
theorem writeRow_change (verb : WriteVerb) {n : NewRow}
    (hvalues : storedValues r.changeTable n.values = .ok v.stored)
    (hid : requestedId n = .ok none) :
    writeRow verb false r.database .main r.changeTable n =
      (r.writeChange v).map fun p => (p.1.database, p.2) := by
  have hrowid : rowId r.changeTable n = nextId r.changeTable := by
    rw [rowId, hid, ok_bind]
  have hbefore : (!(r.database.eventTriggers .main "periodicTaskStatusChange" .before
      .insert).isEmpty) = true := by rfl
  have hafter : ∀ (r' : Records) (row), r'.database.fireAll .main .after .insert row
      "periodicTaskStatusChange" = .ok () := fun _ _ => rfl
  have hframe : eventFrame "new" r.changeTable (rowBefore r.changeTable none v.stored) =
    r.newChangeFrame v := rfl
  rw [writeRow_eq, hvalues, ok_bind, hrowid, writeChange]
  simp only [name_changeTable, hbefore, if_true, hid, ok_bind, hframe, fireAll_statusTrigger]
  cases r.isCurrent v with
  | true => rfl
  | false =>
    cases hnext : nextId r.changeTable with
    | error e => rfl
    | ok rowid =>
      obtain ⟨hrows, -⟩ := lt_of_nextId hnext
      simp only [Bool.false_eq_true, if_false, ok_bind, fillNulls_change]
      cases nonNull "periodicTaskStatusChange" "periodicTaskId" v.task with
      | error e => rfl
      | ok task =>
        cases nonNull "periodicTaskStatusChange" "changedAt" v.changedAt with
        | error e => rfl
        | ok changedAt =>
          cases nonNull "periodicTaskStatusChange" "status" v.status with
          | error e => rfl
          | ok status =>
            have hrow : (⟨rowid, (ChangeRecord.row ⟨rowid, task, changedAt, status⟩).values⟩ : Row) =
              ChangeRecord.row ⟨rowid, task, changedAt, status⟩ := rfl
            have hfree : freeKeys verb r.main r.changeTable
                (ChangeRecord.row ⟨rowid, task, changedAt, status⟩) = .ok r.main :=
              freeKeys_of_lt r.table?_change rfl rfl hrows
            have hwritten := r.addRowTo_change (x := ⟨rowid, task, changedAt, status⟩) hrows
            simp only [ok_bind, pure, Except.pure, hrow, checkConditions_change]
            cases ChangeRecord.check ⟨rowid, task, changedAt, status⟩ with
            | error e => rfl
            | ok _ =>
              simp only [ok_bind, schema_main, hfree, hwritten, Bool.false_and, Bool.false_eq_true,
                if_false, setSchema_main, hafter, Except.map]

end Records

end Tablewright.Tracker
