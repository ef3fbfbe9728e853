import Tablewright.Proofs.Tracker.Fetching
import Tablewright.Proofs.Tracker.Operations

/-!
# What an update leaves

An update writes the row of its task anew and leaves the rows of all other tasks as they are. The
row that was there is deleted for that, and everything that refers to it is deleted with it: the
other tables stay as they are if and only if the task was never completed and its status never
changed (`updateTask_rows`).
-/

namespace Tablewright.Tracker

open Sql Database Session

/-! ## Rows of a task -/

/-- Whether the value of a row at some position is the id of a task. -/
def isRowOf (position : Nat) (id : Int) (row : Row) : Bool :=
  row.values[position]? == some (.integer id)

/-- The rows that a query for all tasks selects. -/
def selectedTasks (s : Session) : Except SessionError (List (List Value)) :=
  resultBy (Session.query taskQuery []) s

/-- A row of a query for all tasks, with a task put in its place if it is the task's. -/
def withUpdate (id : Int) (t : NewTask) (row : List Value) : List Value :=
  if row.head? = some (.integer id) then (StoredTask.row ⟨id, t⟩).values ++ row.drop 4 else row

namespace Contents

variable {c : Contents} {id : Int} {t : NewTask}

theorem isRowOf_completion (id : Int) (x : Completion) : isRowOf 1 id x.row = (x.task == id) := by
  rw [Bool.eq_iff_iff]
  simp [isRowOf, Completion.row]

theorem isRowOf_change (id : Int) (x : StatusChange) : isRowOf 0 id x.row = (x.task == id) := by
  rw [Bool.eq_iff_iff]
  simp [isRowOf, StatusChange.row]

/-- A task is put into the place that was made free for it. -/
theorem insertTask_filter {ts : List StoredTask} (h : ts.Pairwise (·.id < ·.id))
    (hid : ∃ u ∈ ts, u.id = id) (t : NewTask) :
    insertTask ⟨id, t⟩ (ts.filter (·.id != id)) =
      ts.map fun u => if u.id = id then ⟨id, t⟩ else u := by
  induction ts with
  | nil => obtain ⟨u, hu, -⟩ := hid; cases hu
  | cons other rest ih =>
    obtain ⟨hlt, hrest⟩ := List.pairwise_cons.1 h
    by_cases hother : other.id = id
    · have hgreater : ∀ u ∈ rest, id < u.id := fun u hu => hother ▸ hlt u hu
      have hfilter : rest.filter (·.id != id) = rest := by
        rw [List.filter_eq_self]
        intro u hu
        rw [bne_iff_ne]
        exact Int.ne_of_gt (hgreater u hu)
      have hmap : rest.map (fun u => if u.id = id then ⟨id, t⟩ else u) = rest := by
        refine (List.map_congr_left fun u hu => ?_).trans (List.map_id rest)
        exact if_neg (Int.ne_of_gt (hgreater u hu))
      have hfront : insertTask ⟨id, t⟩ rest = ⟨id, t⟩ :: rest := by
        cases rest with
        | nil => rfl
        | cons u us => exact if_pos (hgreater u (by simp))
      simp [hother, hfilter, hmap, hfront]
    · obtain ⟨u, hu, huid⟩ := hid
      have hmem : u ∈ rest := by
        rcases List.mem_cons.1 hu with rfl | hu
        · exact absurd huid hother
        · exact hu
      have hnot : ¬id < other.id := by
        have := hlt u hmem
        omega
      simp [hother, insertTask, hnot, ih hrest ⟨u, hmem, huid⟩]

/-- The tasks after a replacement. -/
theorem tasks_replaced (h : c.Sound) (hid : c.hasTask id = true) (t : NewTask) :
    ((c.withoutTask id).withTask ⟨id, t⟩).tasks =
      c.tasks.map fun u => if u.id = id then ⟨id, t⟩ else u :=
  insertTask_filter h.tasks (c.hasTask_iff.1 hid) t

theorem filter_rows {α : Type} {f : α → Row} {task : α → Int} {position : Nat}
    (hf : ∀ x, isRowOf position id (f x) = (task x == id)) (l : List α) :
    (l.filter (task · != id)).map f =
      (l.map f).filter fun row => !isRowOf position id row := by
  rw [List.filter_map]
  congr 1
  refine List.filter_congr fun x _ => ?_
  rw [Function.comp_apply, hf, bne]

theorem filter_not_eq_self {α : Type} {p : α → Bool} {l : List α} :
    l.filter (fun x => !p x) = l ↔ ∀ x ∈ l, p x = false := by
  simp [List.filter_eq_self]

theorem withUpdate_fetchedRow (id : Int) (t : NewTask) (p : StoredTask × Option Completion) :
    withUpdate id t (fetchedRow p) = fetchedRow (if p.1.id = id then ⟨id, t⟩ else p.1, p.2) := by
  have hhead : (fetchedRow p).head? = some (.integer p.1.id) := rfl
  rw [withUpdate, hhead]
  by_cases hid : p.1.id = id
  · rw [if_pos (by rw [hid]), if_pos hid]
    rfl
  · have hne : ¬some (Value.integer p.1.id) = some (.integer id) := by simpa using hid
    rw [if_neg hne, if_neg hid]

/-- What a query for all tasks selects after a task that was never completed is replaced. -/
theorem fetched_replaced (h : c.Sound) (hid : c.hasTask id = true) (t : NewTask)
    (hnever : ∀ x ∈ c.completions, x.task ≠ id) :
    (((c.withoutTask id).withTask ⟨id, t⟩).fetched).map fetchedRow =
      (c.fetched.map fetchedRow).map (withUpdate id t) := by
  have hcompletions : ((c.withoutTask id).withTask ⟨id, t⟩).completions = c.completions := by
    refine List.filter_eq_self.2 fun x hx => ?_
    rw [bne_iff_ne]
    exact hnever x hx
  have hlatest : ∀ task, ((c.withoutTask id).withTask ⟨id, t⟩).latestCompletions task =
      c.latestCompletions task := by
    intro task
    rw [latestCompletions, hcompletions, latestCompletions]
  have hnone : c.latestCompletions id = [] := by
    rw [latestCompletions, List.filter_eq_nil_iff]
    intro x hx
    simp [hnever x hx]
  rw [fetched, tasks_replaced h hid, fetched, List.flatMap_map, List.map_flatMap,
    List.map_flatMap, List.map_flatMap]
  congr 1
  funext u
  rw [withLatest, hlatest, withLatest, List.map_map]
  simp only [Function.comp_def, withUpdate_fetchedRow]
  by_cases hu : u.id = id
  · simp [hu, hnone]
  · rw [if_neg hu]
    split
    · simp [hu]
    · simp [hu, Function.comp_def]

end Contents

open Contents in
/-- **What an update leaves.** The row of the task is written anew and all other rows of tasks are
left; of the other tables exactly the rows that refer to the task are gone. -/
theorem updateTask_rows (ops : List Operation) (id : Int) (t : NewTask)
    (hstored : ∃ row ∈ (sessionAfter ops).database.rowsOf "periodicTask", row.id = id)
    (hok : resultBy (updateTask id t) (sessionAfter ops) = .ok ()) :
    let s := sessionAfter ops
    let s' := leftBy (updateTask id t) s
    s'.database.rowsOf "periodicTask" = (s.database.rowsOf "periodicTask").map
        (fun row => if row.id = id then StoredTask.row ⟨id, t⟩ else row) ∧
      s'.database.rowsOf "doneTask" =
        (s.database.rowsOf "doneTask").filter (fun row => !isRowOf 1 id row) ∧
      s'.database.rowsOf "periodicTaskStatusChange" =
        (s.database.rowsOf "periodicTaskStatusChange").filter (fun row => !isRowOf 0 id row) ∧
      ((s'.database.rowsOf "doneTask" = s.database.rowsOf "doneTask" ∧
          s'.database.rowsOf "periodicTaskStatusChange" =
            s.database.rowsOf "periodicTaskStatusChange") ↔
        (∀ row ∈ s.database.rowsOf "doneTask", isRowOf 1 id row = false) ∧
          ∀ row ∈ s.database.rowsOf "periodicTaskStatusChange", isRowOf 0 id row = false) ∧
      ((∀ row ∈ s.database.rowsOf "doneTask", isRowOf 1 id row = false) →
        selectedTasks s' = (selectedTasks s).map fun rows => rows.map (withUpdate id t)) := by
  intro s s'
  obtain ⟨c, hc⟩ : ∃ c, contentsAfter ops = c := ⟨_, rfl⟩
  have hs : s.database = c.database := hc ▸ database_sessionAfter ops
  have h : c.Sound := hc ▸ sound_contentsAfter ops
  have hsaved : s.saved = none := saved_sessionAfter ops
  have heffect := effect_updateTask hs h id t
  have hid : c.hasTask id = true := by
    obtain ⟨row, hrow, rfl⟩ := hstored
    change row ∈ s.database.rowsOf "periodicTask" at hrow
    rw [hs, c.rowsOf_task] at hrow
    obtain ⟨u, hu, rfl⟩ := List.mem_map.1 hrow
    exact c.hasTask_iff.2 ⟨u, hu, rfl⟩
  have hstep : c.replaceTask id t = .ok ((c.withoutTask id).withTask ⟨id, t⟩) := by
    obtain ⟨e, -, he⟩ | ⟨-, hreplace⟩ := c.replaceTask_cases id t
    · have hresult := (heffect.resultBy_eq hsaved).symm.trans hok
      rw [he] at hresult
      cases hresult
    · exact hreplace
  have h' : ((c.withoutTask id).withTask ⟨id, t⟩).Sound := h.replaceTask hstep
  have hs' : s'.database = ((c.withoutTask id).withTask ⟨id, t⟩).database := by
    have := heffect.database_leftBy hsaved
    rwa [hstep] at this
  have hcompletions : s'.database.rowsOf "doneTask" =
      (s.database.rowsOf "doneTask").filter fun row => !isRowOf 1 id row := by
    rw [hs, hs', rowsOf_completion, rowsOf_completion]
    exact filter_rows (isRowOf_completion id) c.completions
  have hchanges : s'.database.rowsOf "periodicTaskStatusChange" =
      (s.database.rowsOf "periodicTaskStatusChange").filter fun row => !isRowOf 0 id row := by
    rw [hs, hs', rowsOf_change, rowsOf_change]
    exact filter_rows (isRowOf_change id) c.changes
  refine ⟨?_, hcompletions, hchanges, ?_, fun hnever => ?_⟩
  · rw [hs, hs', rowsOf_task, rowsOf_task, tasks_replaced h hid, List.map_map, List.map_map]
    refine List.map_congr_left fun u _ => ?_
    have : (StoredTask.row u).id = u.id := rfl
    simp only [Function.comp_apply, this]
    split <;> rfl
  · rw [hcompletions, hchanges, filter_not_eq_self, filter_not_eq_self]
  · rw [hs, rowsOf_completion] at hnever
    have hnever' : ∀ x ∈ c.completions, x.task ≠ id := by
      intro x hx
      have := hnever _ (List.mem_map.2 ⟨x, hx, rfl⟩)
      rw [isRowOf_completion] at this
      simpa using this
    rw [selectedTasks, selectedTasks,
      (effect_taskQuery hs' h'.tasks).resultBy_eq (heffect.saved_leftBy hsaved),
      (effect_taskQuery hs h.tasks).resultBy_eq hsaved, fetched_replaced h hid t hnever']
    rfl

/-- Two tasks. -/
def twoTasks : List Operation :=
  [addPlain "water the plants" 2024, addPlain "pay the rent" 2024]

/-- What the second task becomes. -/
def monthlyRent : NewTask :=
  ⟨"pay the rent", .newYear 2025, some 30⟩

/-- A task that was never completed keeps all that there is about it. -/
theorem updateTask_rows_of_new_task :
    (∃ row ∈ (sessionAfter twoTasks).database.rowsOf "periodicTask", row.id = 2) ∧
      resultBy (updateTask 2 monthlyRent) (sessionAfter twoTasks) = .ok () ∧
      (leftBy (updateTask 2 monthlyRent) (sessionAfter twoTasks)).database.rowsOf "periodicTask" =
        [StoredTask.row ⟨1, "water the plants", .newYear 2024, none⟩,
          StoredTask.row ⟨2, monthlyRent⟩] := by
  have hstored : ∃ row ∈ (sessionAfter twoTasks).database.rowsOf "periodicTask", row.id = 2 := by
    rw [database_sessionAfter]
    decide
  have hok : resultBy (updateTask 2 monthlyRent) (sessionAfter twoTasks) = .ok () := by
    rw [(effect_updateTask_after twoTasks 2 monthlyRent).resultBy_eq (saved_sessionAfter _)]
    decide
  refine ⟨hstored, hok, ?_⟩
  rw [(updateTask_rows twoTasks 2 monthlyRent hstored hok).1, database_sessionAfter]
  decide

/-- One task that was completed. -/
def completedTask : List Operation :=
  [addPlain "pay the rent" 2024, .complete 1 (.newYear 2025)]

/-- **An update can change other tables**: the completion of a task does not outlast it. -/
theorem updateTask_deletes_completions :
    ¬∀ (ops : List Operation) (id : Int) (t : NewTask),
      (∃ row ∈ (sessionAfter ops).database.rowsOf "periodicTask", row.id = id) →
      resultBy (updateTask id t) (sessionAfter ops) = .ok () →
      let s := sessionAfter ops
      let s' := leftBy (updateTask id t) s
      s'.database.rowsOf "periodicTask" = (s.database.rowsOf "periodicTask").map
          (fun row => if row.id = id then StoredTask.row ⟨id, t⟩ else row) ∧
        s'.database.rowsOf "doneTask" = s.database.rowsOf "doneTask" ∧
        s'.database.rowsOf "periodicTaskStatusChange" =
          s.database.rowsOf "periodicTaskStatusChange" := by
  intro h
  have hstored : ∃ row ∈ (sessionAfter completedTask).database.rowsOf "periodicTask",
      row.id = 1 := by
    rw [database_sessionAfter]
    decide
  have hok : resultBy (updateTask 1 monthlyRent) (sessionAfter completedTask) = .ok () := by
    rw [(effect_updateTask_after completedTask 1 monthlyRent).resultBy_eq (saved_sessionAfter _)]
    decide
  have hcompletions := (h completedTask 1 monthlyRent hstored hok).2.1
  rw [(effect_updateTask_after completedTask 1 monthlyRent).database_leftBy
    (saved_sessionAfter _), database_sessionAfter] at hcompletions
  revert hcompletions
  decide

end Tablewright.Tracker
