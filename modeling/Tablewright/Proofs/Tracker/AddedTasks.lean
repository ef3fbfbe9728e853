import Tablewright.Proofs.Tracker.Consistency

/-!
# Added tasks

Tasks that are added stand behind all tasks that were there, in the order in which they were given,
and so they are fetched (`addTasks_appends`). Their ids are new ones, each greater than all before
it, so nothing can refer to them yet.
-/

namespace Tablewright.Tracker

open Sql Database Session

namespace Contents

variable {c c' : Contents}

/-! ## The tasks -/

/-- A task with a greater id than all others comes last. -/
theorem insertTask_of_lt {t : StoredTask} {ts : List StoredTask} (h : ∀ u ∈ ts, u.id < t.id) :
    insertTask t ts = ts ++ [t] := by
  induction ts with
  | nil => rfl
  | cons u rest ih =>
    have hu := h u (by simp)
    rw [insertTask, if_neg (by omega), ih fun v hv => h v (List.mem_cons_of_mem u hv)]
    rfl

/-- Contents with further tasks, the last of which has the greatest id there was. -/
structure Appends (c c' : Contents) (new : List StoredTask) : Prop where
  tasks : c'.tasks = c.tasks ++ new
  changes : c'.changes = c.changes
  completions : c'.completions = c.completions
  ordered : new.Pairwise (·.id < ·.id)
  greater : ∀ t ∈ new, (∀ u ∈ c.tasks, u.id < t.id) ∧ c.taskCounter < t.id
  counter : c'.taskCounter = (new.getLast?.map (·.id)).getD c.taskCounter

theorem appends_nil (c : Contents) : Appends c c [] :=
  ⟨(List.append_nil _).symm, rfl, rfl, .nil, by simp, rfl⟩

/-- A task under the next id. -/
theorem Appends.cons {t : StoredTask} {new : List StoredTask} (hnext : nextId c.taskTable = .ok t.id)
    (h : Appends (c.withTask t) c' new) : Appends c c' (t :: new) := by
  obtain ⟨hrows, hcounter⟩ := lt_of_nextId hnext
  have hlt : ∀ u ∈ c.tasks, u.id < t.id := fun u hu =>
    hrows u.row (List.mem_map.2 ⟨u, hu, rfl⟩)
  have hcounter : c.taskCounter < t.id := hcounter rfl
  have htasks : (c.withTask t).tasks = c.tasks ++ [t] := insertTask_of_lt hlt
  have hmax : (c.withTask t).taskCounter = t.id := Int.max_eq_right (Int.le_of_lt hcounter)
  refine ⟨?_, h.changes, h.completions, ?_, ?_, ?_⟩
  · rw [h.tasks, htasks, List.append_assoc, List.singleton_append]
  · refine List.pairwise_cons.2 ⟨fun u hu => ?_, h.ordered⟩
    exact (h.greater u hu).1 t (by rw [htasks]; simp)
  · intro u hu
    rcases List.mem_cons.1 hu with rfl | hu
    · exact ⟨hlt, hcounter⟩
    · obtain ⟨hgreater, hcounted⟩ := h.greater u hu
      rw [hmax] at hcounted
      exact ⟨fun v hv => hgreater v (by rw [htasks]; simp [hv]), by omega⟩
  · rw [h.counter, hmax]
    cases new with
    | nil => rfl
    | cons u rest => simp [List.getLast?_cons]

/-- **Adding tasks** puts them behind all others. -/
theorem exists_appends {ts : List NewTask} (h : c.addTasks ts = .ok c') :
    ∃ new : List StoredTask, new.map (·.task) = ts ∧ Appends c c' new := by
  induction ts generalizing c with
  | nil =>
    cases h
    exact ⟨[], rfl, appends_nil _⟩
  | cons t ts ih =>
    rw [addTasks, List.foldlM_cons] at h
    obtain ⟨e, -, he⟩ | ⟨id, hnext, -, hok⟩ := addTask_cases _ t
    · rw [he] at h
      cases h
    · rw [hok, ok_bind] at h
      obtain ⟨new, rfl, happends⟩ := ih h
      exact ⟨⟨id, t⟩ :: new, rfl, happends.cons hnext⟩

/-! ## What is fetched -/

/-- A task that nothing refers to is fetched without a completion. -/
theorem fetched_of_appends {new : List StoredTask} (hrefers : c.refersToTasks = true)
    (h : Appends c c' new) : c'.fetched = c.fetched ++ new.map fun t => (t, none) := by
  have hlatest : ∀ id, c'.latestCompletions id = c.latestCompletions id := by
    intro id
    rw [latestCompletions, latestCompletions, h.completions]
  have hsame : c'.withLatest = c.withLatest := by
    funext t
    rw [withLatest, withLatest, hlatest]
  have hnever : ∀ t ∈ new, c.latestCompletions t.id = [] := by
    intro t ht
    refine latestCompletions_eq_nil.2 fun x hx hid => ?_
    simp only [refersToTasks, Bool.and_eq_true, List.all_eq_true] at hrefers
    obtain ⟨u, hu, hux⟩ := c.hasTask_iff.1 (hrefers.2 x hx)
    have := (h.greater t ht).1 u hu
    omega
  rw [fetched, hsame, h.tasks, List.flatMap_append, ← fetched]
  congr 1
  rw [← List.flatMap_singleton' (new.map _), List.flatMap_map]
  refine List.flatMap_congr fun t ht => ?_
  rw [withLatest, hnever t ht]

end Contents

open Contents in
/-- **Tasks that are added come behind all others, in their order.** Their ids increase and are
greater than all that are there; the last one is the id that is reported. They are fetched behind
what is fetched without them, without completions and with their starts as they were written, which
is cut to milliseconds, and in the next second if nanoseconds are counted on in the midst of a
minute. -/
theorem addTasks_appends (ops : List Operation) (ts : List NewTask)
    (htimes : ∀ op ∈ ops ++ [.add ts], op.AllTimes Timestamp.IsRepresentable)
    (hok : resultBy (addTasks ts) (sessionAfter ops) = .ok ()) :
    let s := sessionAfter ops
    let s' := leftBy (addTasks ts) s
    ∃ new : List StoredTask, new.map (·.task) = ts ∧
      s'.database.rowsOf "periodicTask" =
        s.database.rowsOf "periodicTask" ++ new.map (·.row) ∧
      new.Pairwise (·.id < ·.id) ∧
      (∀ t ∈ new, ∀ row ∈ s.database.rowsOf "periodicTask", row.id < t.id) ∧
      new.getLast?.map (·.id) = some s'.lastId ∧
      ∃ tasks, resultBy fetchTasks s = .ok (.ok tasks) ∧
        resultBy fetchTasks s' = .ok (.ok (tasks ++ new.map fun t =>
          ⟨t.id, t.task.name, t.task.startAt.written, t.task.intervalDay, none⟩)) ∧
        ∀ t ∈ ts, (t.startAt.IsValid → t.startAt.written = t.startAt.cut) ∧
          (¬t.startAt.IsValid → t.startAt.written = { t.startAt.cut with
            second := t.startAt.second + 1
            nanosecond := t.startAt.cut.nanosecond - Timestamp.nanosecondsPerSecond }) := by
  intro s s'
  obtain ⟨c, hc⟩ : ∃ c, contentsAfter ops = c := ⟨_, rfl⟩
  have hsaved : s.saved = none := saved_sessionAfter ops
  have hs : s.database = c.database := hc ▸ database_sessionAfter ops
  have h : c.Sound := hc ▸ sound_contentsAfter ops
  have hts : ts ≠ [] := by
    rintro rfl
    cases (effect_after ops (.add [])).resultBy_eq hsaved ▸ hok
  have heffect := effect_addTasks hs h hts
  obtain ⟨c', hadd⟩ : ∃ c', c.addTasks ts = .ok c' := by
    cases hadd : c.addTasks ts with
    | ok c' => exact ⟨c', rfl⟩
    | error e =>
      have hresult := (heffect.resultBy_eq hsaved).symm.trans hok
      rw [hadd] at hresult
      cases hresult
  have hs' : s'.database = c'.database := by
    have hleft := heffect.database_leftBy hsaved
    rwa [hadd] at hleft
  obtain ⟨new, hnew, happends⟩ := exists_appends hadd
  -- The times after the addition are those of a longer run.
  have htimesBefore : c.AllTimes Timestamp.IsRepresentable :=
    hc ▸ allTimes_contentsAfter ops fun op hop => htimes op (List.mem_append_left _ hop)
  have htimesAfter : c'.AllTimes Timestamp.IsRepresentable := by
    have hnext : contentsAfter (ops ++ [.add ts]) = c' := by
      rw [contentsAfter_append, hc, Operation.next, Operation.step, hadd, Contents.after]
    exact hnext ▸ allTimes_contentsAfter _ htimes
  refine ⟨new, hnew, ?_, happends.ordered, ?_, ?_, c.fetched.map writtenTask, ?_, ?_, ?_⟩
  · rw [hs, hs', rowsOf_task, rowsOf_task, happends.tasks, List.map_append]
  · intro t ht row hrow
    rw [hs, rowsOf_task] at hrow
    obtain ⟨u, hu, rfl⟩ := List.mem_map.1 hrow
    exact (happends.greater t ht).1 u hu
  · rw [lastId_addTasks hs h hts hadd, happends.counter]
    have hne : new ≠ [] := by
      rintro rfl
      exact hts hnew.symm
    rw [List.getLast?_eq_some_getLast hne]
    rfl
  · rw [(effect_fetchTasks hs h.tasks).resultBy_eq hsaved, decodeTasks_fetched htimesBefore]
  · rw [(effect_fetchTasks hs' (h.addTasks hadd).tasks).resultBy_eq (heffect.saved_leftBy hsaved),
      decodeTasks_fetched htimesAfter, fetched_of_appends h.refers happends, List.map_append,
      List.map_map]
    rfl
  · have hstarts : ∀ t ∈ ts, t.startAt.IsRepresentable := htimes (.add ts) (by simp)
    exact fun t ht => ⟨Timestamp.written_eq_cut, Timestamp.written_of_not_isValid (hstarts t ht)⟩

/-- A task that was moved to another id and removed there. -/
def movedAway : List Operation :=
  [addPlain "pay the rent" 2024, .update 7 ⟨"pay the rent", .newYear 2024, none⟩, .remove 7]

/-- Two tasks for the next year. -/
def nextTasks : List NewTask :=
  [⟨"pay the rent", .newYear 2025, some 30⟩, ⟨"water the plants", .newYear 2025, none⟩]

/-- An id that was taken once is not given again. -/
theorem addTasks_appends_of_movedAway :
    (∀ op ∈ movedAway ++ [.add nextTasks], op.AllTimes Timestamp.IsRepresentable) ∧
      resultBy (addTasks nextTasks) (sessionAfter movedAway) = .ok () ∧
      ∃ new : List StoredTask, new.map (·.task) = nextTasks ∧ new.Pairwise (·.id < ·.id) ∧
        new.getLast?.map (·.id) = some 9 := by
  have htimes : ∀ op ∈ movedAway ++ [.add nextTasks],
      op.AllTimes Timestamp.IsRepresentable := by
    have hyear : ∀ year : Int, 0 ≤ year → year ≤ 9999 →
        (Timestamp.newYear year).IsRepresentable :=
      fun _ hfirst hlast => (Timestamp.isPlain_newYear hfirst hlast).valid.isRepresentable
    simp [movedAway, nextTasks, addPlain, Operation.AllTimes, hyear]
  have hok : resultBy (addTasks nextTasks) (sessionAfter movedAway) = .ok () := by
    refine ((effect_after movedAway (.add nextTasks)).resultBy_eq (saved_sessionAfter _)).trans ?_
    decide
  have hadd : (contentsAfter movedAway).addTasks nextTasks =
      .ok (contentsAfter (movedAway ++ [.add nextTasks])) := by
    decide
  have hlast : (leftBy (addTasks nextTasks) (sessionAfter movedAway)).lastId = 9 := by
    rw [Contents.lastId_addTasks (database_sessionAfter movedAway) (sound_contentsAfter movedAway)
      (by decide) hadd]
    decide
  obtain ⟨new, hnew, -, hordered, -, hgreatest, -⟩ := addTasks_appends movedAway nextTasks htimes hok
  exact ⟨htimes, hok, new, hnew, hordered, hlast ▸ hgreatest⟩

/-- A task whose start is in the midst of a minute and counts its nanoseconds on. -/
def oddTask : NewTask :=
  ⟨"pay the rent", .oddLeapSecond2024, none⟩

open Contents in
/-- A start in the midst of a minute is fetched as another time. -/
theorem addTasks_moves_start :
    oddTask.startAt.IsRepresentable ∧
      resultBy (addTasks [oddTask]) (sessionAfter []) = .ok () ∧
      resultBy fetchTasks (sessionAfter []) = .ok (.ok []) ∧
      resultBy fetchTasks (leftBy (addTasks [oddTask]) (sessionAfter [])) =
        .ok (.ok [⟨1, "pay the rent", ⟨⟨2024, 1, 1⟩, 0, 0, 6, 500000000⟩, none, none⟩]) ∧
      oddTask.startAt.cut = ⟨⟨2024, 1, 1⟩, 0, 0, 5, 1500000000⟩ := by
  have hsaved : (sessionAfter []).saved = none := saved_sessionAfter []
  have hs : (sessionAfter []).database = (contentsAfter []).database := database_sessionAfter []
  have h : (contentsAfter []).Sound := sound_contentsAfter []
  have hadd : (contentsAfter []).addTasks [oddTask] = .ok (contentsAfter [.add [oddTask]]) := by
    decide
  have heffect := effect_addTasks hs h (by decide : [oddTask] ≠ [])
  have hs' : (leftBy (addTasks [oddTask]) (sessionAfter [])).database =
      (contentsAfter [.add [oddTask]]).database := by
    have hleft := heffect.database_leftBy hsaved
    rwa [hadd] at hleft
  have htimes : ∀ ops : List Operation,
      (∀ op ∈ ops, op.AllTimes Timestamp.IsRepresentable) →
      (contentsAfter ops).AllTimes Timestamp.IsRepresentable :=
    allTimes_contentsAfter
  refine ⟨Timestamp.isRepresentable_oddLeapSecond2024, ?_, ?_, ?_, by decide⟩
  · rw [heffect.resultBy_eq hsaved, hadd]
    rfl
  · rw [(effect_fetchTasks hs h.tasks).resultBy_eq hsaved,
      decodeTasks_fetched (htimes [] (by simp))]
    rfl
  · rw [(effect_fetchTasks hs' (h.addTasks hadd).tasks).resultBy_eq (heffect.saved_leftBy hsaved),
      decodeTasks_fetched (htimes [.add [oddTask]]
        (by simp [Operation.AllTimes, oddTask, Timestamp.isRepresentable_oddLeapSecond2024]))]
    decide

end Tablewright.Tracker
