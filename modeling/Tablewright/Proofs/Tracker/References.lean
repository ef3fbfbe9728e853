import Mathlib.Data.List.Nodup
import Tablewright.Proofs.Sql.Comparison
import Tablewright.Proofs.Tracker.Records

/-!
# References to tasks

Changes of status and completions refer to tasks by their ids. What the foreign keys make of that:
a row is an orphan if its task is not there (`isOrphan_row`), and when tasks are deleted, the rows
that refer to them go as well (`settle_main`, `deleteRows_task`). A row that had no task before
stays.
-/

namespace Tablewright.Tracker

open Sql Database

namespace Records

variable (r : Records)

/-! ## Orphans -/

/-- Whether there is a task with the given id. -/
def hasTask (id : Int) : Bool :=
  r.tasks.any (·.id == id)

theorem hasTask_iff {id : Int} : r.hasTask id = true ↔ ∃ t ∈ r.tasks, t.id = id := by
  simp [hasTask]

theorem refersTo_row (id : Int) (t : TaskRecord) :
    refersTo r.taskTable [0] [.integer id] t.row = (t.id == id) := by
  have : refersTo r.taskTable [0] [.integer id] t.row = ((compare id t.id == .eq) && true) := by rfl
  rw [this, Bool.and_true, compareInt_beq_eq, Bool.beq_comm]

theorem isOrphan_row {column : Nat} {row : Row} {id : Int}
    (h : StoredTable.valuesAt row [column] = [.integer id]) :
    isOrphan r.main (Contents.taskReference column) row = !r.hasTask id := by
  have horphan : isOrphan r.main (Contents.taskReference column) row =
      (!((StoredTable.valuesAt row [column]).any Value.isNull) &&
        !((r.tasks.map (·.row)).any
          (refersTo r.taskTable [0] (StoredTable.valuesAt row [column])))) := by rfl
  rw [horphan, h, List.any_map]
  simp only [Function.comp_def, refersTo_row, hasTask]
  rfl

theorem isOrphanOf_task (t : TaskRecord) : isOrphanOf r.main r.taskTable t.row = false := rfl

theorem isOrphanOf_change (x : ChangeRecord) :
    isOrphanOf r.main r.changeTable x.row = !r.hasTask x.task :=
  (Bool.or_false _).trans (r.isOrphan_row rfl)

theorem isOrphanOf_completion (x : CompletionRecord) :
    isOrphanOf r.main r.completionTable x.row = !r.hasTask x.task :=
  (Bool.or_false _).trans (r.isOrphan_row rfl)

/-- Whether all references are to tasks that are there. -/
def refersToTasks : Bool :=
  r.changes.all (r.hasTask ·.task) && r.completions.all (r.hasTask ·.task)

theorem refersToTasks_iff : r.refersToTasks = true ↔
    (∀ x ∈ r.changes, r.hasTask x.task = true) ∧ ∀ x ∈ r.completions, r.hasTask x.task = true := by
  simp [refersToTasks]

theorem hasOrphans_main : hasOrphans r.main = !r.refersToTasks := by
  have horphans : hasOrphans r.main =
      ((r.tasks.map (·.row)).any (isOrphanOf r.main r.taskTable) ||
        ((r.changes.map (·.row)).any (isOrphanOf r.main r.changeTable) ||
          ((r.completions.map (·.row)).any (isOrphanOf r.main r.completionTable) || false))) := by
    rfl
  rw [horphans, List.any_map, List.any_map, List.any_map]
  simp only [Function.comp_def, isOrphanOf_task, isOrphanOf_change, isOrphanOf_completion,
    refersToTasks, Bool.not_and, List.not_all_eq_any_not, Bool.or_false]
  simp

/-! ## Settling -/

/-- Whether a row that refers to a task stays, given what was there before: its task is there, or
was not there before either. -/
def keeps (before : Records) (task : Int) : Bool :=
  r.hasTask task || !before.hasTask task

theorem keeps_of_tasks_eq {before : Records} (h : r.tasks = before.tasks) (task : Int) :
    r.keeps before task = true := by
  have : r.hasTask task = before.hasTask task := by rw [hasTask, h, hasTask]
  rw [keeps, this]
  cases before.hasTask task <;> rfl

/-- The records without the rows whose task was there before and is gone. -/
def withoutLost (before : Records) : Records :=
  { r with
    changes := r.changes.filter (r.keeps before ·.task)
    completions := r.completions.filter (r.keeps before ·.task) }

variable (before : Records)

theorem settleRow_eq {t : StoredTable} {column : Nat} {row : Row} {id : Int}
    (ht : t.foreignKeys = [Contents.taskReference column])
    (h : StoredTable.valuesAt row [column] = [.integer id]) :
    settleRow before.main r.main t row = .ok (if r.keeps before id then some row else none) := by
  have hlost : hasLostParent before.main r.main (Contents.taskReference column) row =
      !r.keeps before id := by
    rw [hasLostParent, r.isOrphan_row h, before.isOrphan_row h, keeps, Bool.not_or, Bool.not_not]
  rw [settleRow, ht]
  simp only [List.foldlM_cons, List.foldlM_nil, hlost]
  cases r.keeps before id <;> rfl

/-- Settling the rows of a table leaves out those that do not stay. -/
theorem settleTable_eq {α : Type} {t : StoredTable} {column : Nat} {rows : List α} {f : α → Row}
    (task : α → Int) (ht : t.foreignKeys = [Contents.taskReference column])
    (hrows : t.rows = rows.map f)
    (h : ∀ a, StoredTable.valuesAt (f a) [column] = [.integer (task a)]) :
    settleTable before.main r.main t =
      .ok { t with rows := (rows.filter fun a => r.keeps before (task a)).map f } := by
  have hsettle : t.rows.mapM (settleRow before.main r.main t) =
      .ok (rows.map fun a => if r.keeps before (task a) then some (f a) else none) := by
    rw [hrows, List.mapM_map]
    exact mapM_eq_ok fun a _ => r.settleRow_eq before ht (h a)
  rw [settleTable, hsettle, ok_bind]
  have hfilter : ∀ l : List α,
      (l.map fun a => if r.keeps before (task a) then some (f a) else none).filterMap id =
        (l.filter fun a => r.keeps before (task a)).map f := by
    intro l
    induction l with
    | nil => rfl
    | cons a rest ih =>
      rw [List.map_cons, List.filter_cons]
      cases r.keeps before (task a) with
      | false => exact ih
      | true => exact congrArg (f a :: ·) ih
  rw [hfilter]
  rfl

theorem mapM_settleObject :
    r.main.mapM (settleObject before.main r.main) = .ok (r.withoutLost before).main := by
  have htask : settleTable before.main r.main r.taskTable = .ok r.taskTable := by
    have : r.taskTable.rows.mapM (settleRow before.main r.main r.taskTable) =
        .ok (r.taskTable.rows.map some) := mapM_eq_ok fun _ _ => rfl
    rw [settleTable, this, ok_bind, List.filterMap_map]
    simp only [Function.comp_def, id, List.filterMap_some]
    rfl
  have hchange := r.settleTable_eq before (t := r.changeTable) (f := ChangeRecord.row)
    ChangeRecord.task rfl rfl fun _ => rfl
  have hcompletion := r.settleTable_eq before (t := r.completionTable) (f := CompletionRecord.row)
    CompletionRecord.task rfl rfl fun _ => rfl
  have htable : ∀ {t t'}, settleTable before.main r.main t = .ok t' →
      settleObject before.main r.main (.table t) = .ok (.table t') := by
    intro t t' h
    rw [settleObject, h]
    rfl
  have hother : ∀ o, o.table? = none → settleObject before.main r.main o = .ok o := by
    intro o ho
    cases o <;> first | rfl | cases ho
  have h₁ := htable htask
  have h₂ := htable hchange
  have h₃ := htable hcompletion
  have h₄ := hother .counters rfl
  have h₅ := hother (.trigger Contents.statusTrigger) rfl
  have h₆ := fun i => hother (.index i) rfl
  generalize settleObject before.main r.main = f at h₁ h₂ h₃ h₄ h₅ h₆ ⊢
  simp only [main, List.mapM_cons, List.mapM_nil, h₁, h₂, h₃, h₄, h₅, h₆, ok_bind]
  rfl

theorem sameRows_withoutLost (h : sameRows r.main (r.withoutLost before).main = true) :
    r.withoutLost before = r := by
  have hrows : (r.changes.map (·.row)) = (r.changes.filter (r.keeps before ·.task)).map (·.row) ∧
      (r.completions.map (·.row)) =
        (r.completions.filter (r.keeps before ·.task)).map (·.row) := by
    have : [r.tasks.map (·.row), r.changes.map (·.row), r.completions.map (·.row)] =
        [r.tasks.map (·.row), (r.changes.filter (r.keeps before ·.task)).map (·.row),
          (r.completions.filter (r.keeps before ·.task)).map (·.row)] := of_decide_eq_true h
    simp only [List.cons.injEq, and_true, true_and] at this
    exact this
  have hfilter : ∀ {α : Type} {p : α → Bool} {f : α → Row} {l : List α},
      l.map f = (l.filter p).map f → l.filter p = l := by
    intro α p f l hl
    have hlength := congrArg List.length hl
    rw [List.length_map, List.length_map] at hlength
    exact List.filter_sublist.eq_of_length hlength.symm
  simp only [withoutLost, hfilter hrows.1, hfilter hrows.2]

theorem withoutLost_withoutLost :
    (r.withoutLost before).withoutLost before = r.withoutLost before := by
  have hfilter : ∀ {α : Type} (p : α → Bool) (l : List α), (l.filter p).filter p = l.filter p := by
    simp [List.filter_filter]
  rw [withoutLost]
  congr 1
  · exact hfilter _ _
  · exact hfilter _ _

theorem settleTimes_withoutLost (n : Nat) :
    settleTimes before.main n (r.withoutLost before).main = .ok (r.withoutLost before).main := by
  cases n with
  | zero => rfl
  | succ n =>
    rw [settleTimes, mapM_settleObject, ok_bind, withoutLost_withoutLost]
    exact if_pos (decide_eq_true rfl)

/-- **Settling leaves out the rows whose task is gone**, and comes to its end. -/
theorem settle_main : settle before.main r.main = .ok (r.withoutLost before).main := by
  obtain ⟨n, hn⟩ : ∃ n, settlingBound r.main = n + 1 := by
    refine ⟨settlingBound r.main - 1, ?_⟩
    have : settlingBound r.main = 1 + r.taskTable.rows.length * 5 +
        r.changeTable.rows.length * 4 + r.completionTable.rows.length * 4 := by rfl
    omega
  rw [settle, hn, settleTimes, mapM_settleObject, ok_bind]
  cases h : sameRows r.main (r.withoutLost before).main with
  | true => rw [r.sameRows_withoutLost before h]; rfl
  | false => exact r.settleTimes_withoutLost before n

theorem settle_of_tasks_eq {before : Records} (h : r.tasks = before.tasks) :
    settle before.main r.main = .ok r.main := by
  have hall : r.keeps before = fun _ => true := funext fun task => r.keeps_of_tasks_eq h task
  have hsame : r.withoutLost before = r := by simp [withoutLost, hall]
  rw [settle_main, hsame]

/-! ## Deleting rows -/

/-- The records without some tasks and what refers to them. -/
def withoutTasks (gone : TaskRecord → Bool) : Records :=
  { r with tasks := r.tasks.filter (!gone ·) }.withoutLost r

/-- The rows that refer to a task go with it if it is the only one of its id. -/
theorem keeps_filter (distinct : (r.tasks.map (·.id)).Nodup) (gone : TaskRecord → Bool) {task : Int}
    (h : r.hasTask task = true) :
    keeps { r with tasks := r.tasks.filter (!gone ·) } r task =
      !(r.tasks.any fun t => gone t && t.id == task) := by
  obtain ⟨t, ht, rfl⟩ := r.hasTask_iff.1 h
  have honly : ∀ u ∈ r.tasks, u.id = t.id → u = t := fun u hu hid =>
    List.inj_on_of_nodup_map distinct hu ht hid
  rw [keeps, h, Bool.not_true, Bool.or_false, Bool.eq_iff_iff, hasTask_iff, Bool.not_eq_true',
    List.any_eq_false]
  constructor
  · rintro ⟨u, hu, hid⟩ v hv hgone
    obtain ⟨hmem, hkept⟩ := List.mem_filter.1 hu
    rw [Bool.and_eq_true, beq_iff_eq] at hgone
    rw [honly u hmem hid] at hkept
    rw [honly v hv hgone.2] at hgone
    rw [hgone.1] at hkept
    cases hkept
  · intro hnone
    refine ⟨t, List.mem_filter.2 ⟨ht, ?_⟩, rfl⟩
    have := hnone t ht
    simpa using this

/-- Without the task of an id, what refers to the id goes. -/
theorem withoutTasks_id (h : r.refersToTasks = true) (id : Int) :
    r.withoutTasks (·.id == id) = { r with
      tasks := r.tasks.filter (·.id != id)
      changes := r.changes.filter (·.task != id)
      completions := r.completions.filter (·.task != id) } := by
  have hkeeps : ∀ task, r.hasTask task = true →
      keeps { r with tasks := r.tasks.filter fun t => !(t.id == id) } r task = (task != id) := by
    intro task htask
    rw [keeps, htask, Bool.not_true, Bool.or_false, Bool.eq_iff_iff, hasTask_iff]
    obtain ⟨t, ht, rfl⟩ := r.hasTask_iff.1 htask
    constructor
    · rintro ⟨u, hu, hid⟩
      have := (List.mem_filter.1 hu).2
      rwa [hid] at this
    · exact fun hne => ⟨t, List.mem_filter.2 ⟨ht, hne⟩, rfl⟩
  obtain ⟨hchanges, hcompletions⟩ := r.refersToTasks_iff.1 h
  exact (Records.mk.injEq ..).mpr ⟨rfl, rfl,
    List.filter_congr fun x hx => hkeeps _ (hchanges x hx),
    List.filter_congr fun x hx => hkeeps _ (hcompletions x hx), rfl⟩

/-- The records without some changes of status. -/
def withoutChanges (gone : ChangeRecord → Bool) : Records :=
  { r with changes := r.changes.filter (!gone ·) }

/-- The records without some completions. -/
def withoutCompletions (gone : CompletionRecord → Bool) : Records :=
  { r with completions := r.completions.filter (!gone ·) }

/-- The rows that stay of a table with the rows of some records. -/
theorem filter_map_row {α : Type} {f : α → Row} {l : List α} {gone : Row → Bool} {p : α → Bool}
    (h : ∀ a ∈ l, gone (f a) = p a) :
    (l.map f).filter (fun row => !gone row) = (l.filter (!p ·)).map f := by
  rw [List.filter_map]
  refine congrArg _ (List.filter_congr fun a ha => ?_)
  rw [Function.comp_apply, h a ha]

theorem deleteRows_task {gone : Row → Bool} {p : TaskRecord → Bool}
    (h : ∀ t ∈ r.tasks, gone t.row = p t) :
    deleteRows r.main r.taskTable gone = .ok (r.withoutTasks p).main := by
  have htable : r.main.setTable
        { r.taskTable with rows := (r.tasks.map (·.row)).filter fun row => !gone row } =
      ({ r with tasks := r.tasks.filter (!p ·) } : Records).main := by
    rw [filter_map_row h]
    rfl
  exact (congrArg (settle r.main) htable).trans (settle_main _ r)

theorem deleteRows_change {gone : Row → Bool} {p : ChangeRecord → Bool}
    (h : ∀ x ∈ r.changes, gone x.row = p x) :
    deleteRows r.main r.changeTable gone = .ok (r.withoutChanges p).main := by
  have htable : r.main.setTable
        { r.changeTable with rows := (r.changes.map (·.row)).filter fun row => !gone row } =
      (r.withoutChanges p).main := by
    rw [filter_map_row h]
    rfl
  exact (congrArg (settle r.main) htable).trans ((r.withoutChanges p).settle_of_tasks_eq rfl)

theorem deleteRows_completion {gone : Row → Bool} {p : CompletionRecord → Bool}
    (h : ∀ x ∈ r.completions, gone x.row = p x) :
    deleteRows r.main r.completionTable gone = .ok (r.withoutCompletions p).main := by
  have htable : r.main.setTable
        { r.completionTable with rows := (r.completions.map (·.row)).filter fun row => !gone row } =
      (r.withoutCompletions p).main := by
    rw [filter_map_row h]
    rfl
  exact (congrArg (settle r.main) htable).trans ((r.withoutCompletions p).settle_of_tasks_eq rfl)

end Records

/-! ## What the operations write -/

namespace Contents

variable (c : Contents)

/-- Whether there is a task with the given id. -/
def hasTask (id : Int) : Bool :=
  c.tasks.any (·.id == id)

theorem hasTask_iff {id : Int} : c.hasTask id = true ↔ ∃ t ∈ c.tasks, t.id = id := by
  simp [hasTask]

/-- Whether all references are to tasks that are there. -/
def refersToTasks : Bool :=
  c.changes.all (c.hasTask ·.task) && c.completions.all (c.hasTask ·.task)

theorem hasTask_records (id : Int) : c.records.hasTask id = c.hasTask id := by
  rw [Records.hasTask, records, List.any_map]
  rfl

theorem refersToTasks_records : c.records.refersToTasks = c.refersToTasks := by
  have hhas : c.records.hasTask = c.hasTask := funext c.hasTask_records
  rw [Records.refersToTasks, hhas, records, List.all_map, List.all_map]
  rfl

end Contents

end Tablewright.Tracker
