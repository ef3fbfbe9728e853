import Tablewright.Proofs.Tracker.LatestCompletions

/-!
# The tables stay readable and consistent

After every run of operations, whether they succeed or fail, all tasks can be fetched and all
references are to tasks that are there (`consistent_sessionAfter`). The operations may have any
arguments; their times need only be representable, in any year and with leap seconds. A time is
decoded as it was written, which is as it was stored and cut to milliseconds but for nanoseconds that
are counted on in the midst of a minute (`decodeTimestamp_toText`).
-/

namespace Tablewright

open Sql

/-- The values of a column of a table. -/
def Database.columnOf (db : Database) (table column : String) : List Value :=
  (((db.table? table).bind (·.position? column)).map fun i =>
    (db.rowsOf table).map fun row => row.values.getD i .null).getD []

namespace Tracker

open Database Session

namespace Contents

variable {c : Contents}

/-! ## Columns -/

theorem columnOf_id :
    c.database.columnOf "periodicTask" "id" = c.tasks.map fun t => .integer t.id := by
  have : c.database.columnOf "periodicTask" "id" =
      (c.tasks.map (·.row)).map fun row => row.values.getD 0 .null := by rfl
  rw [this, List.map_map]
  rfl

theorem columnOf_completion : c.database.columnOf "doneTask" "periodicTaskId" =
    c.completions.map fun x => .integer x.task := by
  have : c.database.columnOf "doneTask" "periodicTaskId" =
      (c.completions.map (·.row)).map fun row => row.values.getD 1 .null := by rfl
  rw [this, List.map_map]
  rfl

theorem columnOf_change : c.database.columnOf "periodicTaskStatusChange" "periodicTaskId" =
    c.changes.map fun x => .integer x.task := by
  have : c.database.columnOf "periodicTaskStatusChange" "periodicTaskId" =
      (c.changes.map (·.row)).map fun row => row.values.getD 0 .null := by rfl
  rw [this, List.map_map]
  rfl

/-! ## References -/

theorem mem_columnOf_id {id : Int} (h : c.hasTask id = true) :
    .integer id ∈ c.database.columnOf "periodicTask" "id" := by
  obtain ⟨t, ht, rfl⟩ := c.hasTask_iff.1 h
  rw [columnOf_id]
  exact List.mem_map.2 ⟨t, ht, rfl⟩

/-- In sound contents every reference is to a task that is there. -/
theorem Sound.subset_columnOf_id (h : c.Sound) :
    c.database.columnOf "doneTask" "periodicTaskId" ⊆ c.database.columnOf "periodicTask" "id" ∧
      c.database.columnOf "periodicTaskStatusChange" "periodicTaskId" ⊆
        c.database.columnOf "periodicTask" "id" := by
  have hrefers := h.refers
  simp only [refersToTasks, Bool.and_eq_true, List.all_eq_true] at hrefers
  rw [columnOf_completion, columnOf_change]
  constructor
  · intro v hv
    obtain ⟨x, hx, rfl⟩ := List.mem_map.1 hv
    exact mem_columnOf_id (hrefers.2 x hx)
  · intro v hv
    obtain ⟨x, hx, rfl⟩ := List.mem_map.1 hv
    exact mem_columnOf_id (hrefers.1 x hx)

/-! ## Fetching -/

/-- What is fetched stands in the tables. -/
theorem mem_fetched {p : StoredTask × Option Completion} (h : p ∈ c.fetched) :
    p.1 ∈ c.tasks ∧ ∀ x ∈ p.2, x ∈ c.completions := by
  obtain ⟨t, ht, hp⟩ := List.mem_flatMap.1 h
  obtain ⟨hfirst, ⟨hnone, -⟩ | ⟨x, hx, hsome⟩⟩ := mem_withLatest hp
  · refine ⟨hfirst ▸ ht, fun x hx => ?_⟩
    rw [hnone] at hx
    cases hx
  · refine ⟨hfirst ▸ ht, fun y hy => ?_⟩
    rw [hsome] at hy
    cases hy
    exact List.mem_of_mem_filter hx

/-- A task as it is fetched, with its times as they were written. -/
def writtenTask (p : StoredTask × Option Completion) : Task :=
  ⟨p.1.id, p.1.task.name, p.1.task.startAt.written, p.1.task.intervalDay,
    p.2.map fun x => x.doneAt.written⟩

/-- Every row that is fetched is decoded, if its times can be represented. -/
theorem decodeTasks_fetched (h : c.AllTimes Timestamp.IsRepresentable) :
    decodeTasks (c.fetched.map fetchedRow) = .ok (c.fetched.map writtenTask) := by
  rw [decodeTasks, List.mapM_map]
  refine mapM_eq_ok fun p hp => ?_
  obtain ⟨htask, hcompletion⟩ := mem_fetched hp
  exact decodeTask_of_read (Timestamp.read_written (h.tasks p.1 htask)) fun x hx =>
    Timestamp.read_written (h.completions x (hcompletion x hx))

theorem exists_decodeTasks (h : c.AllTimes Timestamp.IsRepresentable) :
    ∃ tasks, decodeTasks (c.fetched.map fetchedRow) = .ok tasks :=
  ⟨_, decodeTasks_fetched h⟩

end Contents

/-- **After every run of operations the tables are readable and consistent**: fetching gives
tasks, and every completion and every change of status refers to a task that is there. -/
theorem consistent_sessionAfter (ops : List Operation)
    (htimes : ∀ op ∈ ops, op.AllTimes Timestamp.IsRepresentable) :
    let db := (sessionAfter ops).database
    (∃ tasks, resultBy fetchTasks (sessionAfter ops) = .ok (.ok tasks)) ∧
      db.columnOf "doneTask" "periodicTaskId" ⊆ db.columnOf "periodicTask" "id" ∧
      db.columnOf "periodicTaskStatusChange" "periodicTaskId" ⊆
        db.columnOf "periodicTask" "id" := by
  intro db
  have hdatabase : db = (contentsAfter ops).database := database_sessionAfter ops
  have hsound := sound_contentsAfter ops
  refine ⟨?_, hdatabase ▸ hsound.subset_columnOf_id⟩
  obtain ⟨tasks, hdecode⟩ := Contents.exists_decodeTasks (allTimes_contentsAfter ops htimes)
  refine ⟨tasks, ?_⟩
  rw [(Contents.effect_fetchTasks hdatabase hsound.tasks).resultBy_eq (saved_sessionAfter ops),
    hdecode]

/-- The end of a leap second, before year 0. -/
def ancientLeapSecond : Timestamp :=
  ⟨⟨-4, 2, 29⟩, 23, 59, 59, 1999999999⟩

/-- A leap second in the middle of a minute. -/
def oddLeapSecond : Timestamp :=
  ⟨⟨262142, 12, 31⟩, 12, 30, 30, 1500000000⟩

/-- Operations at these times; the second and the fourth one fail. -/
def oddRun : List Operation :=
  [.add [⟨"pay the rent", ancientLeapSecond, some 7⟩], .add [⟨"", oddLeapSecond, none⟩],
    .complete 1 oddLeapSecond, .complete 2 oddLeapSecond,
    .changeStatus 1 .closed ancientLeapSecond]

theorem consistent_sessionAfter_of_oddRun :
    (∀ op ∈ oddRun, op.AllTimes Timestamp.IsRepresentable) ∧
      (∃ tasks, resultBy fetchTasks (sessionAfter oddRun) = .ok (.ok tasks)) ∧
      (sessionAfter oddRun).database.columnOf "doneTask" "periodicTaskId" = [.integer 1] ∧
      (sessionAfter oddRun).database.columnOf "periodicTaskStatusChange" "periodicTaskId" =
        [.integer 1] ∧
      .integer 1 ∈ (sessionAfter oddRun).database.columnOf "periodicTask" "id" := by
  have hancient : ancientLeapSecond.IsRepresentable := by
    constructor <;> decide
  have hodd : oddLeapSecond.IsRepresentable := by
    constructor <;> decide
  have htimes : ∀ op ∈ oddRun, op.AllTimes Timestamp.IsRepresentable := by
    simp [oddRun, Operation.AllTimes, hancient, hodd]
  have hcompletions :
      (sessionAfter oddRun).database.columnOf "doneTask" "periodicTaskId" = [.integer 1] := by
    rw [database_sessionAfter]
    decide
  have hchanges : (sessionAfter oddRun).database.columnOf "periodicTaskStatusChange"
      "periodicTaskId" = [.integer 1] := by
    rw [database_sessionAfter]
    decide
  obtain ⟨hfetch, hrefer, -⟩ := consistent_sessionAfter oddRun htimes
  exact ⟨htimes, hfetch, hcompletions, hchanges, hrefer (by simp [hcompletions])⟩

/-! ## Times -/

/-- **A time is decoded as it was written**: as it was stored and cut to milliseconds, in every year,
and a leap second, which comes at the end of a minute, stays one. Only a time whose nanoseconds are
counted on in the midst of a minute is decoded in the next second. -/
theorem decodeTimestamp_toText (column : String) {t : Timestamp} (h : t.IsRepresentable) :
    decodeTimestamp column t.toText = .ok t.written ∧
      (t.IsValid → t.written = t.cut ∧
        (Timestamp.nanosecondsPerSecond ≤ t.written.nanosecond ↔
          Timestamp.nanosecondsPerSecond ≤ t.nanosecond)) ∧
      (¬t.IsValid → t.written = { t.cut with
        second := t.second + 1
        nanosecond := t.cut.nanosecond - Timestamp.nanosecondsPerSecond }) := by
  refine ⟨Contents.decodeTimestamp_of_read column (Timestamp.read_written h), fun hvalid => ?_,
    Timestamp.written_of_not_isValid h⟩
  refine ⟨Timestamp.written_eq_cut hvalid, ?_⟩
  simp only [Timestamp.written_eq_cut hvalid, Timestamp.cut, Timestamp.nanosecondsPerSecond,
    Timestamp.nanosecondsPerMillisecond]
  omega

theorem decodeTimestamp_toText_of_leapSeconds :
    ancientLeapSecond.IsValid ∧ ancientLeapSecond.toText = "-0004-02-29T23:59:60.999" ∧
      decodeTimestamp "doneTask.doneAt" ancientLeapSecond.toText =
        .ok ⟨⟨-4, 2, 29⟩, 23, 59, 59, 1999000000⟩ ∧
      oddLeapSecond.IsRepresentable ∧ ¬oddLeapSecond.IsValid ∧
      decodeTimestamp "doneTask.doneAt" oddLeapSecond.toText =
        .ok ⟨⟨262142, 12, 31⟩, 12, 30, 31, 500000000⟩ := by
  have hancient : ancientLeapSecond.IsValid := by
    constructor <;> decide
  have hodd : oddLeapSecond.IsRepresentable := by
    constructor <;> decide
  have hnot : ¬oddLeapSecond.IsValid := fun h => absurd h.nanosecond (by decide)
  obtain ⟨hdecoded, hcut, -⟩ := decodeTimestamp_toText "doneTask.doneAt" hancient.isRepresentable
  obtain ⟨hdecodedOdd, -, hnext⟩ := decodeTimestamp_toText "doneTask.doneAt" hodd
  refine ⟨hancient, by decide, ?_, hodd, hnot, ?_⟩
  · rw [hdecoded, (hcut hancient).1]
    rfl
  · rw [hdecodedOdd, hnext hnot]
    rfl

/-- A time in the midst of a minute that is decoded as another one. -/
theorem decodeTimestamp_toText_in_midMinute :
    let t := Timestamp.oddLeapSecond2024
    t.IsRepresentable ∧ t.toText = "2024-01-01T00:00:06.500" ∧
      decodeTimestamp "doneTask.doneAt" t.toText = .ok ⟨⟨2024, 1, 1⟩, 0, 0, 6, 500000000⟩ ∧
      t.cut = ⟨⟨2024, 1, 1⟩, 0, 0, 5, 1500000000⟩ ∧
      decodeTimestamp "doneTask.doneAt" t.toText ≠ .ok t.cut := by
  intro t
  have hdecoded : decodeTimestamp "doneTask.doneAt" t.toText =
      .ok ⟨⟨2024, 1, 1⟩, 0, 0, 6, 500000000⟩ :=
    Contents.decodeTimestamp_of_read _
      (Timestamp.read_written Timestamp.isRepresentable_oddLeapSecond2024)
  refine ⟨Timestamp.isRepresentable_oddLeapSecond2024, by decide, hdecoded, by decide, ?_⟩
  rw [hdecoded]
  decide

end Tracker

end Tablewright
