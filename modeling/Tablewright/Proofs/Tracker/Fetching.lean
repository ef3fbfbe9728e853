import Tablewright.Proofs.Database.FixedText
import Tablewright.Proofs.Session.Effects
import Tablewright.Proofs.Tracker.References

/-!
# Fetching tasks

What the query for all tasks selects (`effect_fetchTasks`): for every task the completions of which
none is earlier than another one of the task, or nothing if it was never completed.
-/

namespace Tablewright.Tracker.Contents

open Sql Database Session

/-! ## The query -/

/-- The completions of the same task that are later, as the query for all tasks has it. -/
def laterCompletions : Query :=
  .select [.value (.literal (.integer 1))] [.table "doneTask" "later" false .always]
    (.binary .and
      (.binary .equal (qualified "later" "periodicTaskId") (qualified "doneTask" "periodicTaskId"))
      (.binary .greater (qualified "later" "doneAt") (qualified "doneTask" "doneAt")))
    []

/-- Which completions are joined to a task. -/
def isLatestOfTask : Expr :=
  .binary .and
    (.binary .equal (qualified "doneTask" "periodicTaskId") (qualified "periodicTask" "id"))
    (.unary .not (.exists laterCompletions))

/-- The columns of the query. -/
def fetchedColumns : List ResultColumn :=
  [.value (qualified "periodicTask" "id"), .value (qualified "periodicTask" "name"),
    .value (qualified "periodicTask" "startAt"), .value (qualified "periodicTask" "intervalDay"),
    .value (qualified "doneTask" "doneAt")]

/-- The query for all tasks. -/
def fetchQuery : Query :=
  .select fetchedColumns
    [.table "periodicTask" "periodicTask" false .always,
      .table "doneTask" "doneTask" true isLatestOfTask]
    .always [.by (qualified "periodicTask" "id") false]

theorem isStatement_taskQuery : IsStatement taskQuery (.query fetchQuery) :=
  isStatement_of_ascii (by decide +kernel) (by decide +kernel)

/-! ## The rows -/

variable (c : Contents)

/-- Whether a completion is later than another one, as their texts compare. -/
def isLaterCompletion (x y : Completion) : Bool :=
  compareText x.doneAt.toText y.doneAt.toText == .gt

/-- The completions of a task of which none is earlier than another one. -/
def latestCompletions (id : Int) : List Completion :=
  c.completions.filter fun x => x.task == id &&
    !(c.completions.any fun y => y.task == x.task && isLaterCompletion y x)

/-- A task with each of its latest completions, or with none. -/
def withLatest (t : StoredTask) : List (StoredTask × Option Completion) :=
  match c.latestCompletions t.id with
  | [] => [(t, none)]
  | xs => xs.map fun x => (t, some x)

/-- The tasks as they are fetched. -/
def fetched : List (StoredTask × Option Completion) :=
  c.tasks.flatMap c.withLatest

/-- A row as it is fetched. -/
def fetchedRow (p : StoredTask × Option Completion) : List Value :=
  p.1.row.values ++ [(p.2.map fun x => stored x.doneAt).getD .null]

/-- The frames of a row as it is fetched. -/
def fetchedFrames (p : StoredTask × Option Completion) : List Frame :=
  [c.taskTable.frame p.1.row,
    (p.2.map fun x => c.completionTable.frame x.row).getD c.completionTable.nullFrame]

theorem resultRow_fetched (env : Environment) (p : StoredTask × Option Completion) :
    resultRow (env.inside (c.fetchedFrames p)) fetchedColumns = .ok (fetchedRow p) := by
  obtain ⟨t, _ | x⟩ := p <;> rfl

/-! ## The join -/

section Join

variable (parameter : String → Value) (scopes : Scopes)

theorem table?_tasks :
    (c.database.environment parameter scopes).table? "periodicTask" =
      some (c.tasks.map fun t => c.taskTable.frame t.row, c.taskTable.nullFrame) := by
  have : c.taskTable.rows.map c.taskTable.frame =
      c.tasks.map fun t => c.taskTable.frame t.row := List.map_map
  rw [← this]
  rfl

theorem table?_completions :
    (c.database.environment parameter scopes).table? "doneTask" =
      some (c.completions.map fun x => c.completionTable.frame x.row,
        c.completionTable.nullFrame) := by
  have : c.completionTable.rows.map c.completionTable.frame =
      c.completions.map fun x => c.completionTable.frame x.row := List.map_map
  rw [← this]
  rfl

/-- What the condition on a completion of a task sees. -/
def joinEnvironment (t : StoredTask) (x : Completion) : Environment :=
  c.database.environment parameter
    ([c.taskTable.frame t.row, c.completionTable.frame x.row] :: scopes)

theorem decides_laterCompletions (t : StoredTask) (x : Completion) :
    (Expr.exists laterCompletions).Decides (c.joinEnvironment parameter scopes t x)
      (c.completions.any fun y => y.task == x.task && isLaterCompletion y x) := by
  have hjoin : joinSources (c.joinEnvironment parameter scopes t x) [[]]
      [.table "doneTask" "later" false .always] =
        .ok (c.completions.map fun y => [(c.completionTable.frame y.row).withAlias "later"]) :=
    joinSources_table (c.table?_completions parameter _)
  refine decides_exists hjoin fun y _ => ?_
  have htask : (Expr.binary .equal (qualified "later" "periodicTaskId")
      (qualified "doneTask" "periodicTaskId")).Decides
        ((c.joinEnvironment parameter scopes t x).inside
          [(c.completionTable.frame y.row).withAlias "later"]) (y.task == x.task) := by
    rw [← compareInt_beq_eq]
    rfl
  have hlater : (Expr.binary .greater (qualified "later" "doneAt")
      (qualified "doneTask" "doneAt")).Decides
        ((c.joinEnvironment parameter scopes t x).inside
          [(c.completionTable.frame y.row).withAlias "later"]) (isLaterCompletion y x) := by
    rw [isLaterCompletion]
    simp only [joinEnvironment, Completion.row, stored]
    generalize x.doneAt.toText = a
    generalize y.doneAt.toText = b
    rfl
  exact (htask.and hlater).meets

theorem decides_isLatestOfTask (t : StoredTask) (x : Completion) :
    isLatestOfTask.Decides (c.joinEnvironment parameter scopes t x)
      (x.task == t.id && !(c.completions.any fun y => y.task == x.task &&
        isLaterCompletion y x)) := by
  have htask : (Expr.binary .equal (qualified "doneTask" "periodicTaskId")
      (qualified "periodicTask" "id")).Decides (c.joinEnvironment parameter scopes t x)
        (x.task == t.id) := by
    rw [← compareInt_beq_eq]
    rfl
  exact htask.and (decides_laterCompletions c parameter scopes t x).not

/-- **The join gives every task with its latest completions.** -/
theorem joinSources_fetch :
    joinSources (c.database.environment parameter scopes) [[]]
      [.table "periodicTask" "periodicTask" false .always,
        .table "doneTask" "doneTask" true isLatestOfTask] =
      .ok (c.fetched.map c.fetchedFrames) := by
  have htasks : Source.join (c.database.environment parameter scopes) [[]]
      (.table "periodicTask" "periodicTask" false .always) =
        .ok (c.tasks.map fun t => [c.taskTable.frame t.row]) :=
    join_table (c.table?_tasks parameter scopes)
  have hcompletions : Source.join (c.database.environment parameter scopes)
      (c.tasks.map fun t => [c.taskTable.frame t.row])
      (.table "doneTask" "doneTask" true isLatestOfTask) = _ :=
    join_eq (c.table?_completions parameter scopes) fun t _ x _ =>
      (c.decides_isLatestOfTask parameter scopes t x).meets
  rw [joinSources, htasks, ok_bind, joinSources, hcompletions, ok_bind, joinSources, fetched,
    List.map_flatMap]
  congr 2
  funext t
  rw [withLatest, latestCompletions, joined]
  cases c.completions.filter _ with
  | nil => rfl
  | cons x rest => simp only [List.map_map]; rfl

/-! ## The order -/

theorem orderKeys_fetched (p : StoredTask × Option Completion) :
    orderKeys ((c.database.environment parameter scopes).inside (c.fetchedFrames p))
      [.by (qualified "periodicTask" "id") false] = .ok [(.integer p.1.id, false)] := by
  obtain ⟨t, _ | x⟩ := p <;> rfl

/-- Tasks are fetched in the order of their ids. -/
theorem pairwise_fetched (h : c.tasks.Pairwise (·.id < ·.id)) :
    c.fetched.Pairwise fun p q => p.1.id ≤ q.1.id := by
  have hwith : ∀ t, ∀ p ∈ c.withLatest t, p.1 = t := by
    intro t p hp
    rw [withLatest] at hp
    split at hp
    · rw [List.mem_singleton.1 hp]
    · obtain ⟨x, -, rfl⟩ := List.mem_map.1 hp
      rfl
  rw [fetched, List.flatMap, List.pairwise_flatten]
  constructor
  · intro ps hps
    obtain ⟨t, -, rfl⟩ := List.mem_map.1 hps
    refine List.Pairwise.imp_of_mem ?_ (List.pairwise_of_forall fun _ _ => trivial)
    intro p q hp hq _
    have hid : p.1.id = q.1.id := by rw [hwith t p hp, hwith t q hq]
    exact Int.le_of_eq hid
  · rw [List.pairwise_map]
    refine h.imp fun {t u} htu p hp q hq => ?_
    rw [hwith t p hp, hwith u q hq]
    exact Int.le_of_lt htu

theorem inOrder_fetched (h : c.tasks.Pairwise (·.id < ·.id)) :
    inOrder (c.fetched.map fun p => ([(.integer p.1.id, false)], fetchedRow p)) =
      c.fetched.map fetchedRow := by
  have hle : ∀ a b : Int, a ≤ b →
      (compareKeys [(.integer a, false)] [(.integer b, false)] != .gt) = true := by
    intro a b hab
    have : compareKeys [(.integer a, false)] [(.integer b, false)] = (compare a b).then .eq := rfl
    rw [this]
    cases hcmp : compare a b with
    | lt => rfl
    | eq => rfl
    | gt =>
      rw [Int.compare_eq_gt] at hcmp
      omega
  rw [inOrder, List.mergeSort_of_pairwise, List.map_map]
  · rfl
  · rw [List.pairwise_map]
    exact (c.pairwise_fetched h).imp fun {p q} hpq => hle p.1.id q.1.id hpq

/-- **What the query for all tasks selects.** -/
theorem eval_fetchQuery (h : c.tasks.Pairwise (·.id < ·.id)) :
    fetchQuery.eval (c.database.environment parameter scopes) =
      .ok (c.fetched.map fetchedRow) := by
  rw [fetchQuery, eval_select (m := fun _ => true) (c.joinSources_fetch parameter scopes)
    (fun _ _ => decides_always.meets) rfl]
  simp only [orderKeys_fetched, resultRow_fetched, ok_bind]
  have hall : c.fetched.filter (fun _ => true) = c.fetched := by simp
  rw [hall, ← inOrder_fetched c h]
  have : (c.fetched.mapM fun p => (pure ([(.integer p.1.id, false)], fetchedRow p) :
      Except Failure Selected)) = .ok (c.fetched.map fun p =>
        ([(.integer p.1.id, false)], fetchedRow p)) := mapM_eq_ok fun _ _ => rfl
  rw [this]
  rfl

end Join

/-! ## Fetching -/

theorem resolves_fetchQuery : fetchQuery.resolves (c.database.place []) = true := by
  rfl

variable {c} {s : Session}

theorem runQuery_taskQuery (hs : s.database = c.database) (h : c.tasks.Pairwise (·.id < ·.id)) :
    s.database.runQuery s.lastId taskQuery [] =
      ⟨c.database, s.lastId, .ok (c.fetched.map fetchedRow)⟩ := by
  rw [runQuery_eq_run isStatement_taskQuery _ _ (by simp), hs, run, eval_fetchQuery c _ _ h]
  exact if_pos c.resolves_fetchQuery

theorem effect_taskQuery (hs : s.database = c.database) (h : c.tasks.Pairwise (·.id < ·.id)) :
    Effect (Session.query taskQuery []) s (.ok (c.fetched.map fetchedRow)) c.database := by
  have heffect := effect_query taskQuery [] s
  rw [runQuery_taskQuery hs h] at heffect
  exact heffect

/-- **Fetching tasks** from the tables of the tracker. -/
theorem effect_fetchTasks (hs : s.database = c.database) (h : c.tasks.Pairwise (·.id < ·.id)) :
    Effect fetchTasks s (.ok (decodeTasks (c.fetched.map fetchedRow))) c.database := by
  have heffect := effect_query_noted taskQuery [] (fun rows => [.event (fetchedEvent rows)])
    decodeTasks s
  rw [runQuery_taskQuery hs h] at heffect
  exact heffect

end Tablewright.Tracker.Contents
