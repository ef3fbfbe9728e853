import Tablewright.Proofs.Calendar.RoundTrip
import Tablewright.Proofs.Tracker.Fetching
import Tablewright.Proofs.Tracker.Times

/-!
# Tasks with their latest completions

Fetching gives every task with the greatest time at which it was completed, cut to milliseconds, as
often as it was completed at that time (`fetchTasks_latest`). It gives every task once if and only
if no task was completed twice at its greatest time.
-/

namespace Tablewright

/-! ## The greatest of texts -/

theorem exists_greatestText {α : Type} (f : α → String) {l : List α} (h : l ≠ []) :
    ∃ x ∈ l, ∀ y ∈ l, (compareText (f y) (f x)).isLE := by
  induction l with
  | nil => contradiction
  | cons a rest ih =>
    by_cases hrest : rest = []
    · subst hrest
      refine ⟨a, by simp, fun y hy => ?_⟩
      rw [List.mem_singleton.1 hy]
      exact Std.ReflCmp.isLE_rfl
    obtain ⟨x, hx, hgreatest⟩ := ih hrest
    cases hax : compareText (f a) (f x) with
    | gt =>
      have hxa : (compareText (f x) (f a)).isLE := by
        rw [compareText_swap, hax]
        rfl
      refine ⟨a, by simp, fun y hy => ?_⟩
      rcases List.mem_cons.1 hy with rfl | hy
      · exact Std.ReflCmp.isLE_rfl
      · exact Std.TransCmp.isLE_trans (hgreatest y hy) hxa
    | _ =>
      refine ⟨x, by simp [hx], fun y hy => ?_⟩
      rcases List.mem_cons.1 hy with rfl | hy
      · rw [hax]
        rfl
      · exact hgreatest y hy

namespace Tracker

open Sql Database Session

/-! ## The greatest time -/

namespace Contents

variable (c : Contents)

/-- Whether a completion is one of a task, and at the greatest time of one, in milliseconds. -/
def isAtGreatestTime (id : Int) (x : Completion) : Bool :=
  x.task == id && c.completions.all fun y =>
    y.task != id || (Timestamp.order y.doneAt.cut x.doneAt.cut).isLE

/-- The time of the latest completion of a task, none if it was never completed. -/
def IsLatestTime (id : Int) : Option Timestamp → Prop
  | none => ∀ x ∈ c.completions, x.task ≠ id
  | some time => (∃ x ∈ c.completions, x.task = id ∧ x.doneAt.cut = time) ∧
      ∀ x ∈ c.completions, x.task = id → (Timestamp.order x.doneAt.cut time).isLE

variable {c}

theorem latestCompletions_eq (h : c.AllTimes Timestamp.IsPlain) (id : Int) :
    c.latestCompletions id = c.completions.filter (c.isAtGreatestTime id) := by
  refine List.filter_congr fun x hx => ?_
  rw [isAtGreatestTime]
  cases hid : x.task == id with
  | false => rfl
  | true =>
    rw [beq_iff_eq] at hid
    rw [Bool.true_and, Bool.true_and, List.not_any_eq_all_not, Bool.eq_iff_iff, List.all_eq_true,
      List.all_eq_true]
    refine forall₂_congr fun y hy => ?_
    rw [isLaterCompletion, Timestamp.compareText_toText (h.completions y hy) (h.completions x hx), hid, bne,
      Bool.not_and]
    cases Timestamp.order y.doneAt.cut x.doneAt.cut <;> simp

theorem mem_latestCompletions (h : c.AllTimes Timestamp.IsPlain) {id : Int} {x : Completion} :
    x ∈ c.latestCompletions id ↔ x ∈ c.completions ∧ x.task = id ∧
      ∀ y ∈ c.completions, y.task = id → (Timestamp.order y.doneAt.cut x.doneAt.cut).isLE := by
  rw [latestCompletions_eq h, List.mem_filter, isAtGreatestTime]
  simp [imp_iff_not_or]

/-- A task that was completed has a latest completion. -/
theorem latestCompletions_eq_nil {id : Int} :
    c.latestCompletions id = [] ↔ ∀ x ∈ c.completions, x.task ≠ id := by
  rw [latestCompletions, List.filter_eq_nil_iff]
  constructor
  · intro h x hx hid
    have hne : c.completions.filter (·.task == id) ≠ [] :=
      List.ne_nil_of_mem (List.mem_filter.2 ⟨hx, by simpa using hid⟩)
    obtain ⟨z, hz, hgreatest⟩ := exists_greatestText (fun x => x.doneAt.toText) hne
    obtain ⟨hmem, htask⟩ := List.mem_filter.1 hz
    refine h z hmem ?_
    rw [htask, Bool.true_and, Bool.not_eq_true', List.any_eq_false]
    intro y hy hlater
    rw [Bool.and_eq_true, isLaterCompletion, beq_iff_eq, beq_iff_eq] at hlater
    rw [beq_iff_eq] at htask
    have := hgreatest y (List.mem_filter.2 ⟨hy, by simpa using hlater.1.trans htask⟩)
    rw [hlater.2] at this
    cases this
  · intro h x hx
    simp [h x hx]

/-! ## Decoding -/

/-- A task as it is fetched. -/
def fetchedTask (p : StoredTask × Option Completion) : Task :=
  ⟨p.1.id, p.1.task.name, p.1.task.startAt.cut, p.1.task.intervalDay,
    p.2.map fun x => x.doneAt.cut⟩

/-- The time of a completion, NULL for none. -/
def decodeDone : Value → Except DecodeError (Option Timestamp) :=
  decodeOptional fun v => do decodeTimestamp "doneTask.doneAt" (← decodeText "doneTask.doneAt" v)

theorem decodeDone_text (text : String) :
    decodeDone (.text text) = (decodeTimestamp "doneTask.doneAt" text).map some := rfl

theorem decodeTask_eq (id : Int) (name start : String) (interval done : Value) :
    decodeTask [.integer id, .text name, .text start, interval, done] = (do
      let interval ← decodeOptional (decodeInteger "periodicTask.intervalDay") interval
      let done ← decodeDone done
      return ⟨id, name, ← decodeTimestamp "periodicTask.startAt" start, interval, done⟩) := rfl

theorem decodeTimestamp_of_read (column : String) {text : String} {t : Timestamp}
    (h : Timestamp.read text = .ok t) : decodeTimestamp column text = .ok t := by
  rw [decodeTimestamp, h]
  rfl

/-- A row is decoded if its times are read. -/
theorem decodeTask_of_read {p : StoredTask × Option Completion} {start : Timestamp}
    {done : Completion → Timestamp}
    (hstart : Timestamp.read p.1.task.startAt.toText = .ok start)
    (hdone : ∀ x ∈ p.2, Timestamp.read x.doneAt.toText = .ok (done x)) :
    decodeTask (fetchedRow p) =
      .ok ⟨p.1.id, p.1.task.name, start, p.1.task.intervalDay, p.2.map done⟩ := by
  obtain ⟨⟨id, name, startAt, intervalDay⟩, completion⟩ := p
  have hrow : fetchedRow ⟨⟨id, name, startAt, intervalDay⟩, completion⟩ =
      [.integer id, .text name, .text startAt.toText, (intervalDay.map .integer).getD .null,
        (completion.map fun x => stored x.doneAt).getD .null] := rfl
  have hinterval : decodeOptional (decodeInteger "periodicTask.intervalDay")
      ((intervalDay.map .integer).getD .null) = .ok intervalDay := by
    cases intervalDay <;> rfl
  have hdone' : decodeDone ((completion.map fun x => stored x.doneAt).getD .null) =
      .ok (completion.map done) := by
    cases completion with
    | none => rfl
    | some x =>
      rw [Option.map_some, Option.getD_some, stored, decodeDone_text,
        decodeTimestamp_of_read _ (hdone x rfl)]
      rfl
  rw [hrow, decodeTask_eq, hinterval, ok_bind, hdone', ok_bind, decodeTimestamp_of_read _ hstart]
  rfl

theorem decodeTask_fetchedRow {p : StoredTask × Option Completion}
    (hstart : p.1.task.startAt.IsValid) (hdone : ∀ x ∈ p.2, x.doneAt.IsValid) :
    decodeTask (fetchedRow p) = .ok (fetchedTask p) :=
  decodeTask_of_read (Timestamp.read_toText hstart) fun x hx => Timestamp.read_toText (hdone x hx)

theorem mem_withLatest {t : StoredTask} {p : StoredTask × Option Completion}
    (h : p ∈ c.withLatest t) : p.1 = t ∧ (p.2 = none ∧ c.latestCompletions t.id = [] ∨
      ∃ x ∈ c.latestCompletions t.id, p.2 = some x) := by
  rw [withLatest] at h
  split at h
  · rename_i hnil
    rw [List.mem_singleton.1 h]
    exact ⟨rfl, .inl ⟨rfl, hnil⟩⟩
  · obtain ⟨x, hx, rfl⟩ := List.mem_map.1 h
    exact ⟨rfl, .inr ⟨x, hx, rfl⟩⟩

theorem length_withLatest (t : StoredTask) :
    (c.withLatest t).length = max 1 (c.latestCompletions t.id).length := by
  rw [withLatest]
  split
  · rename_i hnil
    rw [hnil]
    rfl
  · rename_i hne
    have := List.length_pos_iff.2 hne
    rw [List.length_map]
    omega

/-- A task is fetched as often as its latest completion is, or once. -/
theorem countP_fetched (h : c.tasks.Pairwise (·.id < ·.id)) {t : StoredTask} (ht : t ∈ c.tasks) :
    c.fetched.countP (·.1.id == t.id) = max 1 (c.latestCompletions t.id).length := by
  have hone : ∀ u, (c.withLatest u).filter (·.1.id == t.id) =
      if u.id == t.id then c.withLatest u else [] := by
    intro u
    cases hid : u.id == t.id with
    | true => exact List.filter_eq_self.2 fun p hp => by rw [(mem_withLatest hp).1, hid]
    | false => exact List.filter_eq_nil_iff.2 fun p hp => by rw [(mem_withLatest hp).1, hid]; simp
  have hfilter : ∀ ts : List StoredTask, (ts.flatMap c.withLatest).filter (·.1.id == t.id) =
      (ts.filter (·.id == t.id)).flatMap c.withLatest := by
    intro ts
    induction ts with
    | nil => rfl
    | cons u rest ih =>
      rw [List.flatMap_cons, List.filter_append, ih, hone, List.filter_cons]
      split <;> rfl
  have hmem : t ∈ c.tasks.filter (·.id == t.id) := List.mem_filter.2 ⟨ht, by simp⟩
  rw [List.countP_eq_length_filter, fetched, hfilter]
  rw [filter_id_eq h, Option.mem_toList] at hmem
  rw [filter_id_eq h, hmem, Option.toList_some, List.flatMap_singleton, length_withLatest]

theorem map_withLatest (t : StoredTask) (h : (c.latestCompletions t.id).length ≤ 1) :
    (c.withLatest t).map (·.1.id) = [t.id] := by
  have hlength : ((c.withLatest t).map (·.1.id)).length = 1 := by
    rw [List.length_map, length_withLatest]
    omega
  obtain ⟨id, hid⟩ := List.length_eq_one_iff.1 hlength
  have hmem : id ∈ (c.withLatest t).map (·.1.id) := by rw [hid]; simp
  obtain ⟨p, hp, rfl⟩ := List.mem_map.1 hmem
  rw [hid, (mem_withLatest hp).1]

/-- Every task is fetched once if none has several latest completions, and only then. -/
theorem map_fetched_iff (h : c.tasks.Pairwise (·.id < ·.id)) :
    c.fetched.map (·.1.id) = c.tasks.map (·.id) ↔
      ∀ t ∈ c.tasks, (c.latestCompletions t.id).length ≤ 1 := by
  constructor
  · intro heq t ht
    have hcount := congrArg (List.countP (· == t.id)) heq
    have hone : c.tasks.countP (·.id == t.id) = 1 := by
      have hmem : t ∈ c.tasks.filter (·.id == t.id) := List.mem_filter.2 ⟨ht, by simp⟩
      rw [filter_id_eq h, Option.mem_toList] at hmem
      rw [List.countP_eq_length_filter, filter_id_eq h, hmem]
      rfl
    rw [List.countP_map, List.countP_map] at hcount
    have hfetched := countP_fetched h ht
    have : max 1 (c.latestCompletions t.id).length = 1 :=
      hfetched.symm.trans (hcount.trans hone)
    omega
  · intro hone
    rw [fetched, List.map_flatMap, ← List.flatMap_singleton' (c.tasks.map (·.id)), List.flatMap_map]
    exact List.flatMap_congr fun t ht => map_withLatest t (hone t ht)

end Contents

open Contents in
/-- **Fetching gives every task with its latest completion**, and once if and only if no task has
several completions at its greatest time. -/
theorem fetchTasks_latest (ops : List Operation)
    (htimes : ∀ op ∈ ops, op.AllTimes Timestamp.IsPlain) :
    let c := contentsAfter ops
    (sessionAfter ops).database = c.database ∧ c.tasks.Pairwise (·.id < ·.id) ∧
      ∃ tasks, resultBy fetchTasks (sessionAfter ops) = .ok (.ok tasks) ∧
        tasks.Pairwise (·.id ≤ ·.id) ∧
        (∀ a ∈ tasks, ∃ t ∈ c.tasks, a = ⟨t.id, t.task.name, t.task.startAt.cut,
          t.task.intervalDay, a.doneAt⟩ ∧ c.IsLatestTime t.id a.doneAt) ∧
        (∀ t ∈ c.tasks, tasks.countP (·.id == t.id) =
          max 1 (c.completions.countP (c.isAtGreatestTime t.id))) ∧
        (tasks.map (·.id) = c.tasks.map (·.id) ↔
          ∀ t ∈ c.tasks, c.completions.countP (c.isAtGreatestTime t.id) ≤ 1) := by
  intro c
  have hdatabase : (sessionAfter ops).database = c.database := database_sessionAfter ops
  have hordered : c.tasks.Pairwise (·.id < ·.id) := (sound_contentsAfter ops).tasks
  have h : c.AllTimes Timestamp.IsPlain := allTimes_contentsAfter ops htimes
  have hlength : ∀ id, c.completions.countP (c.isAtGreatestTime id) =
      (c.latestCompletions id).length := by
    intro id
    rw [latestCompletions_eq h, List.countP_eq_length_filter]
  have hdecode : decodeTasks (c.fetched.map fetchedRow) = .ok (c.fetched.map fetchedTask) := by
    rw [decodeTasks, List.mapM_map]
    refine mapM_eq_ok fun p hp => ?_
    obtain ⟨t, ht, hpt⟩ := List.mem_flatMap.1 hp
    obtain ⟨hfirst, hsecond⟩ := mem_withLatest hpt
    refine decodeTask_fetchedRow (by rw [hfirst]; exact (h.tasks t ht).valid) fun x hx => ?_
    obtain ⟨hnone, -⟩ | ⟨y, hy, hsome⟩ := hsecond
    · rw [hnone] at hx
      cases hx
    · rw [hsome] at hx
      cases hx
      exact (h.completions x ((mem_latestCompletions h).1 hy).1).valid
  refine ⟨hdatabase, hordered, c.fetched.map fetchedTask, ?_, ?_, ?_, ?_, ?_⟩
  · rw [(effect_fetchTasks hdatabase hordered).resultBy_eq (saved_sessionAfter ops), hdecode]
  · rw [List.pairwise_map]
    exact c.pairwise_fetched hordered
  · intro a ha
    obtain ⟨p, hp, rfl⟩ := List.mem_map.1 ha
    obtain ⟨t, ht, hpt⟩ := List.mem_flatMap.1 hp
    obtain ⟨hfirst, hsecond⟩ := mem_withLatest hpt
    refine ⟨t, ht, ?_, ?_⟩
    · rw [fetchedTask, hfirst]
    · obtain ⟨hnone, hnil⟩ | ⟨x, hx, hsome⟩ := hsecond
      · rw [fetchedTask, hnone]
        exact latestCompletions_eq_nil.1 hnil
      · rw [fetchedTask, hsome]
        obtain ⟨hmem, htask, hgreatest⟩ := (mem_latestCompletions h).1 hx
        exact ⟨⟨x, hmem, htask, rfl⟩, hgreatest⟩
  · intro t ht
    rw [hlength, ← countP_fetched hordered ht, List.countP_map]
    rfl
  · simp only [hlength]
    rw [← map_fetched_iff hordered, List.map_map]
    rfl

/-- A task that was completed twice, at different times. -/
def completedTwice : List Operation :=
  [addPlain "pay the rent" 2024, .complete 1 (.newYear 2025), .complete 1 (.newYear 2026)]

theorem fetchTasks_latest_of_completedTwice :
    (∀ op ∈ completedTwice, op.AllTimes Timestamp.IsPlain) ∧
      ∃ tasks, resultBy fetchTasks (sessionAfter completedTwice) = .ok (.ok tasks) ∧
        tasks.map (·.id) = [1] := by
  have htimes : ∀ op ∈ completedTwice, op.AllTimes Timestamp.IsPlain := by
    have hyear : ∀ year : Int, 0 ≤ year → year ≤ 9999 → (Timestamp.newYear year).IsPlain :=
      fun _ => Timestamp.isPlain_newYear
    simp [completedTwice, addPlain, Operation.AllTimes, hyear]
  obtain ⟨-, -, tasks, hfetch, -, -, -, hone⟩ := fetchTasks_latest completedTwice htimes
  refine ⟨htimes, tasks, hfetch, (hone.2 ?_).trans ?_⟩
  · decide
  · decide

/-- A task that was completed twice at the same time. -/
def completedTwiceAtOnce : List Operation :=
  [addPlain "pay the rent" 2024, .complete 1 (.newYear 2025), .complete 1 (.newYear 2025)]

/-- **Fetching can give a task twice**: with each completion at its greatest time. -/
theorem fetchTasks_duplicates :
    ¬∀ ops : List Operation, (∀ op ∈ ops, op.AllTimes Timestamp.IsPlain) →
      let c := contentsAfter ops
      ∃ tasks, resultBy fetchTasks (sessionAfter ops) = .ok (.ok tasks) ∧
        tasks.map (·.id) = ((sessionAfter ops).database.rowsOf "periodicTask").map (·.id) ∧
        tasks.Pairwise (·.id < ·.id) ∧ ∀ a ∈ tasks, c.IsLatestTime a.id a.doneAt := by
  intro h
  have htimes : ∀ op ∈ completedTwiceAtOnce, op.AllTimes Timestamp.IsPlain := by
    have hyear : ∀ year : Int, 0 ≤ year → year ≤ 9999 → (Timestamp.newYear year).IsPlain :=
      fun _ => Timestamp.isPlain_newYear
    simp [completedTwiceAtOnce, addPlain, Operation.AllTimes, hyear]
  obtain ⟨tasks, hfetch, hids, -, -⟩ := h completedTwiceAtOnce htimes
  have heffect := Contents.effect_fetchTasks (database_sessionAfter completedTwiceAtOnce)
    (sound_contentsAfter completedTwiceAtOnce).tasks
  rw [heffect.resultBy_eq (saved_sessionAfter _), Except.ok.injEq] at hfetch
  have hlength : ((decodeTasks ((contentsAfter completedTwiceAtOnce).fetched.map
      Contents.fetchedRow)).toOption.map List.length) = some 2 := by
    decide
  have hlength' := congrArg List.length hids
  have hrows : (((contentsAfter completedTwiceAtOnce).database.rowsOf "periodicTask").map
      (·.id)).length = 1 := by
    decide
  rw [hfetch] at hlength
  rw [database_sessionAfter, hrows, List.length_map] at hlength'
  have : tasks.length = 2 := Option.some.inj hlength
  omega

end Tracker

end Tablewright
