import Tablewright.Proofs.Tracker.Operations

/-!
# Runs of calls

The tables of the tracker after any run of calls: of the functions that are generated for the
tables, with any parameters of their types, and of the operations (`sessionAfterCalls`). After every
run no transaction is open, every reference is to a task that is there, and no two tasks have one id
(`exists_records`).
-/

namespace Tablewright.Tracker

open Sql Database AccessModule Session

/-- A call that changes the tables. -/
inductive Call
  | write (verb : WriteVerb) (k : TableName) (rows : List (Params (writeRole verb) k.table))
  | delete (k : TableName) (filter : Params .delete k.table)
  | operate (op : Operation)

/-- A call in a session. -/
def Call.perform : Call → SessionM Unit
  | write verb k rows => writeCall verb k rows
  | delete k filter => deleteCall k filter
  | operate op => op.perform

/-- The session after calls, whether they succeed or fail. -/
def sessionAfterCalls (calls : List Call) : Session :=
  calls.foldl (fun s call => leftBy call.perform s) initialSession

/-- Every reference is to a task that is there, and no two tasks have one id. -/
structure Records.Sound (r : Records) : Prop where
  refers : r.refersToTasks = true
  distinct : (r.tasks.map (·.id)).Nodup

/-- A session outside of a transaction, with the tables of the tracker. -/
structure IsStore (s : Session) (r : Records) : Prop where
  saved : s.saved = none
  database : s.database = r.database
  sound : r.Sound

variable {s : Session} {r : Records}

/-! ## One call -/

namespace Records

theorem distinct_writeTask {verb : WriteVerb} {v : TaskValues} {p : Records × Int}
    (h : (r.tasks.map (·.id)).Nodup) (hwrite : r.writeTask verb v = .ok p) :
    (p.1.tasks.map (·.id)).Nodup := by
  obtain ⟨t, free, hid, hfree, hp⟩ := exists_of_writeTask r hwrite
  have hnew : t.id ∉ free.tasks.map (·.id) := by
    intro hmem
    obtain ⟨u, hu, hsame⟩ := List.mem_map.1 hmem
    have hthere : free.hasTask p.2 = true := free.hasTask_iff.2 ⟨u, hu, hsame.trans hid⟩
    rw [hasTask_of_freeTask r hfree] at hthere
    cases hthere
  have hperm : (p.1.tasks.map (·.id)).Perm (t.id :: free.tasks.map (·.id)) := by
    rw [hp]
    exact (perm_insertById _ t free.tasks).map _
  exact hperm.nodup_iff.2 (List.nodup_cons.2
    ⟨hnew, ((tasks_sublist_of_freeTask r hfree).map _).nodup h⟩)

theorem tasks_of_write {verb : WriteVerb} {k : TableName} (hk : k ≠ .tasks) {m : Members}
    {p : Records × Int} (h : r.write verb k m = .ok p) : p.1.tasks = r.tasks := by
  cases k with
  | tasks => exact absurd rfl hk
  | changes =>
    obtain ⟨x, hx, -⟩ := exists_of_writeChange _ h
    rw [hx]
    rfl
  | completions =>
    rw [write, writeCompletion] at h
    obtain ⟨_, -, h⟩ := exists_of_bind_eq_ok h
    obtain ⟨_, -, h⟩ := exists_of_bind_eq_ok h
    obtain ⟨_, -, h⟩ := exists_of_bind_eq_ok h
    obtain ⟨free, hfree, h⟩ := exists_of_bind_eq_ok h
    cases h
    cases verb with
    | insert =>
      rw [freeCompletion] at hfree
      split at hfree <;> cases hfree
      rfl
    | replace => cases hfree; rfl

theorem distinct_write {verb : WriteVerb} {k : TableName} {m : Members} {p : Records × Int}
    (h : (r.tasks.map (·.id)).Nodup) (hwrite : r.write verb k m = .ok p) :
    (p.1.tasks.map (·.id)).Nodup := by
  by_cases hk : k = .tasks
  · subst hk
    exact distinct_writeTask h hwrite
  · rw [tasks_of_write hk hwrite]
    exact h

theorem distinct_writeEach {verb : WriteVerb} {k : TableName} (ms : List Members)
    {p : Records × Int} (h : (p.1.tasks.map (·.id)).Nodup) :
    ((writeEach verb k ms p).1.1.tasks.map (·.id)).Nodup := by
  induction ms generalizing p with
  | nil => exact h
  | cons m rest ih =>
    rw [writeEach]
    cases hwrite : p.1.write verb k m with
    | ok p' => exact ih (distinct_write h hwrite)
    | error e => exact h

/-- In the end, a write leaves what was there before, or all references to tasks that are there. -/
theorem sound_finish (h : r.Sound) {x : (Records × Int) × Option Failure}
    (hx : (x.1.1.tasks.map (·.id)).Nodup) : (r.finish x).1.Sound := by
  obtain ⟨p, failure⟩ := x
  cases failure with
  | none =>
    rw [finish]
    split
    · exact ⟨‹_›, hx⟩
    · exact h
  | some e =>
    rw [finish]
    split
    · exact h
    · split
      · exact ⟨‹_›, hx⟩
      · exact h

theorem sound_writeBatch (h : r.Sound) (verb : WriteVerb) (k : TableName)
    (rows : List (Params (writeRole verb) k.table)) (last : Int) :
    (r.writeBatch verb k rows last).1.Sound := by
  rw [writeBatch]
  split
  · exact h
  · exact sound_finish h (distinct_writeEach _ h.distinct)

theorem sound_without (h : r.Sound) (k : TableName) (gone : Row → Bool) :
    (r.without k gone).Sound := by
  refine ⟨refersToTasks_without h.refers, ?_⟩
  cases k with
  | tasks => exact (List.filter_sublist.map _).nodup h.distinct
  | _ => exact h.distinct

end Records

theorem IsStore.of_effect {α : Type} {operation : SessionM α} {result : Except SessionError α}
    {r' : Records} (h : IsStore s r) (heffect : Effect operation s result r'.database)
    (hsound : r'.Sound) : IsStore (leftBy operation s) r' :=
  ⟨heffect.saved_leftBy h.saved, heffect.database_leftBy h.saved, hsound⟩

theorem IsStore.write (h : IsStore s r) (verb : WriteVerb) (k : TableName)
    (rows : List (Params (writeRole verb) k.table)) :
    IsStore (leftBy (writeCall verb k rows) s) (r.writeBatch verb k rows s.lastId).1 :=
  h.of_effect (effect_writeCall h.database rows) (Records.sound_writeBatch h.sound ..)

theorem IsStore.delete (h : IsStore s r) (k : TableName) (p : Params .delete k.table) :
    ∃ r', IsStore (leftBy (deleteCall k p) s) r' := by
  by_cases hfields : filterFields p = []
  · have heffect := effect_deleteCall_empty (s := s) hfields
    rw [h.database] at heffect
    exact ⟨r, h.of_effect heffect h.sound⟩
  · exact ⟨_, h.of_effect (effect_deleteCall h.database h.sound.refers hfields)
      (Records.sound_without h.sound ..)⟩

theorem IsStore.operate (h : IsStore s r) (op : Operation) :
    ∃ r', IsStore (leftBy op.perform s) r' := by
  cases op with
  | add ts =>
    rw [Operation.perform, addTasks_eq]
    exact ⟨_, h.write ..⟩
  | update id t => exact ⟨_, h.write .replace .tasks [updateParams id t]⟩
  | complete id now => exact ⟨_, h.write .insert .completions [completionParams id now]⟩
  | changeStatus id status now =>
    have heffect := effect_writeCall h.database [changeParams id status now]
    exact ⟨_, h.of_effect (effect_toleratingDuplicate heffect)
      (Records.sound_writeBatch h.sound ..)⟩
  | remove id => exact h.delete .tasks (taskFilter id)

/-- Every call leaves sound tables. -/
theorem IsStore.perform (h : IsStore s r) (call : Call) :
    ∃ r', IsStore (leftBy call.perform s) r' := by
  cases call with
  | write verb k rows => exact ⟨_, h.write verb k rows⟩
  | delete k p => exact h.delete k p
  | operate op => exact h.operate op

/-! ## Runs -/

theorem sessionAfterCalls_append (calls : List Call) (call : Call) :
    sessionAfterCalls (calls ++ [call]) = leftBy call.perform (sessionAfterCalls calls) := by
  rw [sessionAfterCalls, List.foldl_append, List.foldl_cons, List.foldl_nil, ← sessionAfterCalls]

/-- **After every run of calls there are the tables of the tracker**, and they are sound. -/
theorem exists_records (calls : List Call) : ∃ r, IsStore (sessionAfterCalls calls) r := by
  induction calls using List.reverseRecOn with
  | nil =>
    have hsession : sessionAfterCalls [] = initialSession := by
      rw [sessionAfterCalls, List.foldl_nil]
    obtain ⟨hsaved, hdatabase⟩ := initialSession_holds
    rw [hsession]
    exact ⟨Contents.empty.records, hsaved, hdatabase.trans Contents.empty.database_records.symm,
      rfl, .nil⟩
  | append_singleton calls call ih =>
    obtain ⟨r, h⟩ := ih
    rw [sessionAfterCalls_append]
    exact h.perform call

/-! ## A store with one task -/

/-- The rows with one task. -/
def oneTask : Records :=
  ⟨[⟨1, "pay the rent", "2024-01-01T00:00:00.000", none⟩], 1, [], [], 0⟩

/-- A run that adds the task. -/
def addsOneTask : List Call :=
  [.operate (addPlain "pay the rent" 2024)]

theorem isStore_oneTask : IsStore (sessionAfterCalls addsOneTask) oneTask := by
  have hsession : sessionAfterCalls addsOneTask = sessionAfter [addPlain "pay the rent" 2024] := rfl
  have hrecords : (contentsAfter [addPlain "pay the rent" 2024]).records = oneTask := by decide
  rw [hsession]
  refine ⟨saved_sessionAfter _, ?_, by decide, by decide⟩
  rw [database_sessionAfter, ← Contents.database_records, hrecords]

end Tablewright.Tracker
