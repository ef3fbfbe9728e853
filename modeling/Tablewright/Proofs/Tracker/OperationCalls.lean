import Tablewright.Proofs.Tracker.Deletions
import Tablewright.Proofs.Tracker.Sound

/-!
# The operations as calls

Each operation of the tracker is a call of a function that is generated for a table. What the call
does to the records is what the step of the same name does to the contents: `effect_addTasks` and
its kin.
-/

namespace Tablewright.Tracker

open Sql Database AccessModule Session

/-! ## Parameters -/

theorem membersOf_eq_none {fields : List (String × Option Value)} {c : String}
    (h : c ∉ fields.map (·.1)) : membersOf fields c = none := by
  have hlookup : fields.lookup c = none := by
    refine List.lookup_eq_none_iff.2 fun p hp => ?_
    rw [bne_iff_ne]
    rintro rfl
    exact h (List.mem_map.2 ⟨p, hp, rfl⟩)
  rw [membersOf, hlookup]
  rfl

/-- The row of a new task. -/
def newTaskParams (t : NewTask) : Params (writeRole .insert) TableName.tasks.table where
  value := membersOf (taskMembers t)
  fits := by
    refine ⟨fun m hm v hv => ?_, fun m hm hneeded => ?_, fun c hc => membersOf_eq_none hc⟩
    · obtain rfl | rfl | rfl := mem_three hm
      · cases hv; rfl
      · cases hv; rfl
      · obtain ⟨n, -, rfl⟩ := Option.map_eq_some_iff.1 hv
        rfl
    · obtain rfl | rfl | rfl := mem_three hm
      · rfl
      · rfl
      · cases hneeded

/-- The row that is put in the place of a task. -/
def updateParams (id : Int) (t : NewTask) : Params (writeRole .replace) TableName.tasks.table where
  value := membersOf (("id", some (.integer id)) :: taskMembers t)
  fits := by
    refine ⟨fun m hm v hv => ?_, fun m hm hneeded => ?_, fun c hc => membersOf_eq_none hc⟩
    · obtain rfl | hm := List.mem_cons.1 hm
      · cases hv; rfl
      obtain rfl | rfl | rfl := mem_three hm
      · cases hv; rfl
      · cases hv; rfl
      · obtain ⟨n, -, rfl⟩ := Option.map_eq_some_iff.1 hv
        rfl
    · obtain rfl | hm := List.mem_cons.1 hm
      · rfl
      obtain rfl | rfl | rfl := mem_three hm <;> cases hneeded

/-- The row of a completion. -/
def completionParams (id : Int) (now : Timestamp) :
    Params (writeRole .insert) TableName.completions.table where
  value := membersOf [("periodicTaskId", some (.integer id)), ("doneAt", some (stored now))]
  fits := by
    refine ⟨fun m hm v hv => ?_, fun m hm _ => ?_, fun c hc => membersOf_eq_none hc⟩
    all_goals obtain rfl | hm := List.mem_cons.1 hm
    · cases hv; rfl
    · obtain rfl := List.mem_singleton.1 hm
      cases hv; rfl
    · rfl
    · obtain rfl := List.mem_singleton.1 hm
      rfl

/-- The row of a change of status. -/
def changeParams (id : Int) (status : TaskStatus) (now : Timestamp) :
    Params (writeRole .insert) TableName.changes.table where
  value := membersOf [("periodicTaskId", some (.integer id)), ("changedAt", some (stored now)),
    ("status", some (.text status.word))]
  fits := by
    refine ⟨fun m hm v hv => ?_, fun m hm _ => ?_, fun c hc => membersOf_eq_none hc⟩
    · obtain rfl | rfl | rfl := mem_three hm <;> · cases hv; rfl
    · obtain rfl | rfl | rfl := mem_three hm <;> rfl

/-- A filter with one member. -/
theorem fits_membersOf_singleton {k : TableName} {m : Member} (hm : m ∈ members .delete k.table)
    {v : Value} (hv : m.type.holds v = true) :
    Fits .delete k.table (membersOf [(m.column.name, some v)]) := by
  have hdistinct : (columnNames .delete k.table).Nodup := by cases k <;> decide
  refine ⟨fun m' hm' v' hv' => ?_, fun m' hm' hneeded => ?_, fun c hc => membersOf_eq_none ?_⟩
  · by_cases hname : m'.column.name = m.column.name
    · obtain rfl := List.inj_on_of_nodup_map hdistinct hm' hm hname
      have : membersOf [(m'.column.name, some v)] m'.column.name = some v := by simp [membersOf]
      rw [this] at hv'
      cases hv'
      exact hv
    · rw [membersOf_eq_none (by simpa using hname)] at hv'
      cases hv'
  · obtain ⟨c, -, rfl⟩ := List.mem_map.1 hm'
    cases hneeded
  · rintro hmem
    obtain rfl := List.mem_singleton.1 hmem
    exact hc (List.mem_map.2 ⟨m, hm, rfl⟩)

/-- The filter for a task. -/
def taskFilter (id : Int) : Params .delete TableName.tasks.table where
  value := membersOf [("id", some (.integer id))]
  fits := fits_membersOf_singleton (m := ⟨key "id", .omittable⟩) (by decide) rfl

theorem addTasks_eq (ts : List NewTask) :
    addTasks ts = writeCall .insert .tasks (ts.map newTaskParams) := by
  have hvalues : (ts.map newTaskParams).map (·.value) = ts.map fun t => membersOf (taskMembers t) :=
    List.map_map
  exact congrArg (insertRows periodicTask) hvalues.symm

theorem updateTask_eq (id : Int) (t : NewTask) :
    updateTask id t = writeCall .replace .tasks [updateParams id t] := rfl

theorem completeTask_eq (id : Int) (now : Timestamp) :
    completeTask id now = writeCall .insert .completions [completionParams id now] := rfl

theorem changeStatus_eq (id : Int) (status : TaskStatus) (now : Timestamp) :
    changeStatus id status now =
      toleratingDuplicate (writeCall .insert .changes [changeParams id status now]) := rfl

theorem selects_taskFilter (id : Int) (t : TaskRecord) :
    TableName.tasks.selects (taskFilter id).value t.row = (t.id == id) := by
  have : TableName.tasks.selects (taskFilter id).value t.row =
      ((Value.integer id == .integer t.id) && true) := rfl
  rw [this, Bool.and_true, Bool.eq_iff_iff, beq_iff_eq, beq_iff_eq, Value.integer.injEq, eq_comm]

theorem effect_removeTask_records {r : Records} {s : Session} (hs : s.database = r.database)
    (h : r.refersToTasks = true) (id : Int) :
    Effect (removeTask id) s (.ok ()) (r.withoutTasks (·.id == id)).database := by
  have hsome : filterFields (taskFilter id) ≠ [] := by
    rw [ne_eq, filterFields_eq_nil]
    intro hnone
    cases hnone "id"
  have heffect := effect_deleteCall hs h hsome
  rw [Records.without, funext (selects_taskFilter id)] at heffect
  exact heffect

/-- The result of a step for the session. -/
def resultOf (step : Except Failure Contents) : Except SessionError Unit :=
  (Session.result step).map fun _ => ()

namespace Contents

variable {c : Contents} {s : Session}

/-! ## Steps on the records -/

theorem insertById_record (t : StoredTask) (ts : List StoredTask) :
    insertById (·.id) t.record (ts.map (·.record)) = (insertTask t ts).map (·.record) := by
  induction ts with
  | nil => rfl
  | cons u rest ih =>
    rw [List.map_cons, insertById, insertTask, ih]
    change (if t.id < u.id then _ else _) = _
    split <;> rfl

theorem withTask_records (c : Contents) (t : StoredTask) :
    c.records.withTask t.record = (c.withTask t).records := by
  have htasks : insertById (·.id) t.record c.records.tasks = (c.withTask t).records.tasks :=
    insertById_record t c.tasks
  rw [Records.withTask, htasks]
  rfl

/-- Without a task, what refers to it goes as well. -/
theorem withoutTasks_records (h : c.refersToTasks = true) (id : Int) :
    c.records.withoutTasks (·.id == id) = (c.withoutTask id).records := by
  have hfilter : ∀ {α β : Type} (f : α → β) (id? : β → Int) (l : List α),
      ((l.map f).filter (id? · != id)) = (l.filter fun a => id? (f a) != id).map f := by
    intro α β f id? l
    rw [List.filter_map]
    rfl
  rw [Records.withoutTasks_id _ ((c.refersToTasks_records).trans h)]
  exact (Records.mk.injEq ..).mpr ⟨hfilter _ TaskRecord.id _, rfl, hfilter _ ChangeRecord.task _,
    hfilter _ CompletionRecord.task _, rfl⟩

theorem write_newTask (c : Contents) (t : NewTask) :
    c.records.write .insert .tasks (newTaskParams t).value =
      (c.addTask t).map fun c' => (c'.records, c'.taskCounter) := by
  have hvalues : TaskValues.of (newTaskParams t).value =
      ⟨none, some t.name, some t.startAt.toText, t.intervalDay⟩ := by
    obtain ⟨name, startAt, interval⟩ := t
    cases interval <;> rfl
  rw [Records.write, hvalues, Records.writeTask, addTask, taskTable_records]
  simp only [newId]
  cases hnext : nextId c.taskTable with
  | error e => rfl
  | ok id =>
    have hcheck : TaskRecord.check ⟨id, t.name, t.startAt.toText, t.intervalDay⟩ = t.check := rfl
    have hmax : (c.withTask ⟨id, t⟩).taskCounter = id :=
      Int.max_eq_right (Int.le_of_lt ((lt_of_nextId hnext).2 rfl))
    have hwith := c.withTask_records ⟨id, t⟩
    simp only [ok_bind, nonNull, hcheck, Records.freeTask, hasTask_records,
      hasTask_of_nextId hnext, Bool.false_eq_true, if_false]
    cases t.check with
    | error e => rfl
    | ok _ =>
      simp only [ok_bind, pure, Except.pure, Except.map, hmax]
      exact congrArg (fun r => Except.ok (r, id)) hwith

/-- New tasks are written one after the other, up to the first that fails. -/
theorem writeEach_newTasks (ts : List NewTask) (c : Contents) (last : Int) :
    match c.addTasks ts with
    | .ok c' => Records.writeEach .insert .tasks ((ts.map newTaskParams).map (·.value))
        (c.records, last) = ((c'.records, if ts.isEmpty then last else c'.taskCounter), none)
    | .error e => isOfRow e = true ∧ ∃ p, Records.writeEach .insert .tasks
        ((ts.map newTaskParams).map (·.value)) (c.records, last) = (p, some e) := by
  induction ts generalizing c last with
  | nil => rfl
  | cons t ts ih =>
    rw [addTasks, List.foldlM_cons]
    simp only [List.map_cons, Records.writeEach, write_newTask]
    obtain ⟨e, hrow, he⟩ | ⟨id, -, -, hok⟩ := c.addTask_cases t
    · rw [he]
      exact ⟨hrow, _, rfl⟩
    · rw [hok]
      have hrest := ih (c.withTask ⟨id, t⟩) (c.withTask ⟨id, t⟩).taskCounter
      cases ts with
      | nil => exact hrest
      | cons u us => exact hrest

theorem writeOne_update (h : c.refersToTasks = true) (id : Int) (t : NewTask) :
    c.records.writeOne .replace .tasks (updateParams id t).value =
      (c.replaceTask id t).map fun c' => (c'.records, id) := by
  have hvalues : TaskValues.of (updateParams id t).value =
      ⟨some id, some t.name, some t.startAt.toText, t.intervalDay⟩ := by
    obtain ⟨name, startAt, interval⟩ := t
    cases interval <;> rfl
  have hcheck : TaskRecord.check ⟨id, t.name, t.startAt.toText, t.intervalDay⟩ = t.check := rfl
  have hwith : (c.withoutTask id).records.withTask ⟨id, t.name, t.startAt.toText, t.intervalDay⟩ =
      ((c.withoutTask id).withTask ⟨id, t⟩).records := (c.withoutTask id).withTask_records ⟨id, t⟩
  have hrefers : ((c.withoutTask id).withTask ⟨id, t⟩).records.refersToTasks = true := by
    rw [refersToTasks_records]
    exact refersToTasks_withTask (refersToTasks_withoutTask h id) _
  rw [Records.writeOne, Records.write, hvalues, Records.writeTask, replaceTask]
  simp only [newId, nonNull, ok_bind, hcheck, Records.freeTask, withoutTasks_records h]
  cases t.check with
  | error e => rfl
  | ok _ =>
    simp only [ok_bind, pure, Except.pure, hwith, hrefers, if_true]
    rfl

theorem writeOne_completion (h : c.refersToTasks = true) (id : Int) (now : Timestamp) :
    c.records.writeOne .insert .completions (completionParams id now).value =
      (c.complete id now).map fun c' => (c'.records, c'.completionCounter) := by
  have hvalues : CompletionValues.of (completionParams id now).value =
      ⟨none, some id, some now.toText⟩ := rfl
  rw [Records.writeOne, Records.write, hvalues, Records.writeCompletion, complete,
    completionTable_records]
  simp only [newId]
  cases hnext : nextId c.completionTable with
  | error e => rfl
  | ok rowid =>
    obtain ⟨hrows, hcounter⟩ := lt_of_nextId hnext
    have hless : ∀ x ∈ c.completions, x.id < rowid := fun x hx =>
      hrows x.row (List.mem_map.2 ⟨x, hx, rfl⟩)
    have hfree : c.records.hasCompletion rowid = false := by
      rw [Records.hasCompletion, List.any_eq_false]
      intro x hx
      obtain ⟨y, hy, rfl⟩ := List.mem_map.1 hx
      have : y.record.id = y.id := rfl
      have := hless y hy
      simp
      omega
    have hlast : insertById (·.id) (Completion.record ⟨rowid, id, now⟩) c.records.completions =
        (c.withCompletion ⟨rowid, id, now⟩).records.completions := by
      have happend : (c.withCompletion ⟨rowid, id, now⟩).records.completions =
          c.records.completions ++ [Completion.record ⟨rowid, id, now⟩] := List.map_append
      rw [happend, insertById_of_lt]
      intro x hx
      obtain ⟨y, hy, rfl⟩ := List.mem_map.1 hx
      exact hless y hy
    have hwith : c.records.withCompletion ⟨rowid, id, now.toText⟩ =
        (c.withCompletion ⟨rowid, id, now⟩).records :=
      (Records.mk.injEq ..).mpr ⟨rfl, rfl, rfl, hlast, rfl⟩
    have hmax : (c.withCompletion ⟨rowid, id, now⟩).completionCounter = rowid :=
      Int.max_eq_right (Int.le_of_lt (hcounter rfl))
    have hrefers : (c.withCompletion ⟨rowid, id, now⟩).records.refersToTasks = c.hasTask id := by
      rw [refersToTasks_records]
      rw [refersToTasks_withCompletion, h, Bool.true_and]
    simp only [ok_bind, nonNull, Records.freeCompletion, hfree, Bool.false_eq_true, if_false, pure,
      Except.pure, hwith, hrefers]
    cases c.hasTask id with
    | false => rfl
    | true =>
      simp only [if_true, Except.map, hmax]

theorem isCurrent_records (c : Contents) (id : Int) (status : TaskStatus) (text : Option String) :
    c.records.isCurrent ⟨some id, text, some status.word⟩ = c.isCurrent id status := by
  have htask : ∀ x : StatusChange, (some id == some x.record.task) = (x.task == id) := fun x => by
    rw [Option.some_beq_some, Bool.beq_comm]
    rfl
  have hstatus : ∀ x : StatusChange, (some status.word == some x.record.status) =
      (x.status == status) := by
    rintro ⟨rowid, task, changedAt, changed⟩
    cases status <;> cases changed <;> rfl
  have hlater : ∀ x y : StatusChange, y.record.isLater x.record = isLater y x := fun _ _ => rfl
  rw [Records.isCurrent, isCurrent, records]
  simp only [List.any_map, Function.comp_def, Records.isLatestTo, htask, hstatus, hlater]

theorem writeOne_change (h : c.refersToTasks = true) (id : Int) (status : TaskStatus)
    (now : Timestamp) :
    (c.records.writeOne .insert .changes (changeParams id status now).value).map (·.1) =
      (c.changeStatus id status now).map (·.records) := by
  have hvalues : ChangeValues.of (changeParams id status now).value =
      ⟨some id, some now.toText, some status.word⟩ := rfl
  rw [Records.writeOne, Records.write, hvalues, Records.writeChange, changeStatus,
    isCurrent_records, changeTable_records]
  cases c.isCurrent id status with
  | true => rfl
  | false =>
    cases nextId c.changeTable with
    | error e => rfl
    | ok rowid =>
      have hcheck : ChangeRecord.check ⟨rowid, id, now.toText, status.word⟩ = .ok () := by
        cases status <;> rfl
      have hwith : c.records.withChange ⟨rowid, id, now.toText, status.word⟩ =
          (c.withChange ⟨rowid, id, now, status⟩).records := by
        have happend : (c.withChange ⟨rowid, id, now, status⟩).records.changes =
            c.records.changes ++ [StatusChange.record ⟨rowid, id, now, status⟩] := List.map_append
        exact (Records.mk.injEq ..).mpr ⟨rfl, rfl, happend.symm, rfl, rfl⟩
      have hrefers : (c.withChange ⟨rowid, id, now, status⟩).records.refersToTasks =
          c.hasTask id := by
        rw [refersToTasks_records, refersToTasks_withChange, h, Bool.true_and]
      simp only [Bool.false_eq_true, if_false, ok_bind, nonNull, hcheck, pure, Except.pure, hwith,
        hrefers]
      cases c.hasTask id <;> rfl

/-! ## What the operations come to -/

theorem effect_of_writeOne {verb : WriteVerb} {k : TableName} {p : Params (writeRole verb) k.table}
    {step : Except Failure Contents} (hs : s.database = c.database) (h : c.refersToTasks = true)
    (hstep : (c.records.writeOne verb k p.value).map (·.1) = step.map (·.records)) :
    Effect (writeCall verb k [p]) s (resultOf step) (c.after step).database := by
  have heffect := effect_writeOne (hs.trans c.database_records.symm)
    ((c.refersToTasks_records).trans h) p
  cases hone : c.records.writeOne verb k p.value with
  | error e =>
    rw [hone] at hstep heffect
    cases step with
    | error e' =>
      cases hstep
      rw [← database_records]
      exact heffect
    | ok c' => cases hstep
  | ok x =>
    rw [hone] at hstep heffect
    cases step with
    | error e' => cases hstep
    | ok c' =>
      have hrecords : x.1 = c'.records := Except.ok.inj hstep
      rw [Records.after, hrecords, database_records] at heffect
      exact heffect

/-- The batch of new tasks. -/
theorem writeBatch_newTasks (h : c.Sound) {ts : List NewTask} (hts : ts ≠ []) (last : Int) :
    c.records.writeBatch .insert .tasks (ts.map newTaskParams) last =
      ((c.after (c.addTasks ts)).records,
        ((c.addTasks ts).map (·.taskCounter)).mapError .database) := by
  have hrows : (ts.map newTaskParams).map rowFields =
      (ts.map fun t => membersOf (taskMembers t)).map (boundFields .insert periodicTask) := by
    rw [List.map_map, List.map_map]
    rfl
  have hstatement : ∃ text, Batch.statement .insert TableName.tasks.table.name
      (columnNames (writeRole .insert) TableName.tasks.table)
      ((ts.map newTaskParams).map rowFields) = .ok text := by
    rw [hrows]
    cases hstatement : Batch.statement .insert TableName.tasks.table.name
        (columnNames (writeRole .insert) TableName.tasks.table)
        ((ts.map fun t => membersOf (taskMembers t)).map (boundFields .insert periodicTask)) with
    | ok text => exact ⟨text, rfl⟩
    | error e =>
      have := (statement_insert_eq_error_iff (t := periodicTask) (by decide) _ _ e).1 hstatement
      exact absurd (List.map_eq_nil_iff.1 this.1) hts
  obtain ⟨text, htext⟩ := hstatement
  have hwritten := writeEach_newTasks ts c last
  rw [Records.writeBatch, htext]
  cases hadd : c.addTasks ts with
  | ok c' =>
    have hrefers : c'.records.refersToTasks = true :=
      (c'.refersToTasks_records).trans (h.addTasks hadd).refers
    rw [hadd] at hwritten
    simp only [hwritten, Records.finish, hrefers, if_true, List.isEmpty_eq_false_iff.2 hts]
    rfl
  | error e =>
    rw [hadd] at hwritten
    obtain ⟨hrow, p, hp⟩ := hwritten
    simp only [hp, Records.finish, hrow, if_true]
    rfl

/-- **Adding tasks** to the tables of the tracker. -/
theorem effect_addTasks (hs : s.database = c.database) (h : c.Sound)
    {ts : List NewTask} (hts : ts ≠ []) :
    Effect (Tracker.addTasks ts) s (resultOf (c.addTasks ts)) (c.after (c.addTasks ts)).database := by
  have heffect := effect_writeCall (hs.trans c.database_records.symm) (ts.map newTaskParams)
  rw [writeBatch_newTasks h hts, database_records, ← addTasks_eq] at heffect
  cases hadd : c.addTasks ts <;> rw [hadd] at heffect <;> exact heffect

/-- The id that is written last is that of the last task. -/
theorem lastId_addTasks (hs : s.database = c.database) (h : c.Sound) {ts : List NewTask}
    (hts : ts ≠ []) {c' : Contents} (hadd : c.addTasks ts = .ok c') :
    (leftBy (Tracker.addTasks ts) s).lastId = c'.taskCounter := by
  rw [addTasks_eq]
  refine lastId_writeCall (hs.trans c.database_records.symm) ?_
  rw [writeBatch_newTasks h hts, hadd]
  rfl

/-- **Updating a task** in the tables of the tracker. -/
theorem effect_updateTask (hs : s.database = c.database) (h : c.Sound) (id : Int) (t : NewTask) :
    Effect (Tracker.updateTask id t) s (resultOf (c.replaceTask id t))
      (c.after (c.replaceTask id t)).database := by
  rw [updateTask_eq]
  refine effect_of_writeOne hs h.refers ?_
  rw [writeOne_update h.refers]
  cases c.replaceTask id t <;> rfl

/-- **Completing a task** in the tables of the tracker. -/
theorem effect_completeTask (hs : s.database = c.database) (h : c.Sound) (id : Int) (now : Timestamp) :
    Effect (completeTask id now) s (resultOf (c.complete id now))
      (c.after (c.complete id now)).database := by
  rw [completeTask_eq]
  refine effect_of_writeOne hs h.refers ?_
  rw [writeOne_completion h.refers]
  cases c.complete id now <;> rfl

/-- **Changing the status of a task** in the tables of the tracker. -/
theorem effect_changeStatus (hs : s.database = c.database) (h : c.Sound) (id : Int)
    (status : TaskStatus) (now : Timestamp) :
    Effect (Tracker.changeStatus id status now) s
      (ignoringDuplicate (resultOf (c.changeStatus id status now)))
      (c.after (c.changeStatus id status now)).database := by
  rw [changeStatus_eq]
  exact effect_toleratingDuplicate (effect_of_writeOne hs h.refers (writeOne_change h.refers ..))

/-- **Removing a task** from the tables of the tracker. -/
theorem effect_removeTask (hs : s.database = c.database) (h : c.Sound) (id : Int) :
    Effect (removeTask id) s (.ok ()) (c.withoutTask id).database := by
  have heffect := effect_removeTask_records (hs.trans c.database_records.symm)
    ((c.refersToTasks_records).trans h.refers) id
  rw [withoutTasks_records h.refers, database_records] at heffect
  exact heffect

end Contents

end Tablewright.Tracker
