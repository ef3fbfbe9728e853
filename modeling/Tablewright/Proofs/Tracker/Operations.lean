import Mathlib.Data.List.Induction
import Tablewright.Proofs.Calendar.Order
import Tablewright.Proofs.Tracker.Creation
import Tablewright.Proofs.Tracker.OperationCalls

/-!
# Runs of operations

The tables of the tracker after any run of operations (`sessionAfter`), whether the operations
succeed or fail. An operation on the tables is a step on their contents (`Operation.effect`), so a
run of operations is a run of steps (`database_sessionAfter`), and what every step preserves holds
after every run (`sound_contentsAfter`).
-/

namespace Tablewright.Tracker

open Sql Database Session

/-! ## Operations -/

/-- An operation of the tracker with its arguments. -/
inductive Operation
  | add (tasks : List NewTask)
  | update (id : Int) (task : NewTask)
  | complete (id : Int) (now : Timestamp)
  | changeStatus (id : Int) (status : TaskStatus) (now : Timestamp)
  | remove (id : Int)

namespace Operation

/-- An operation in a session. -/
def perform : Operation → SessionM Unit
  | add tasks => addTasks tasks
  | update id task => updateTask id task
  | complete id now => completeTask id now
  | changeStatus id status now => Tracker.changeStatus id status now
  | remove id => removeTask id

/-- An operation as a step on the contents. -/
def step (c : Contents) : Operation → Except Failure Contents
  | add tasks => c.addTasks tasks
  | update id task => c.replaceTask id task
  | complete id now => c.complete id now
  | changeStatus id status now => c.changeStatus id status now
  | remove id => .ok (c.withoutTask id)

/-- The contents after an operation. -/
def next (c : Contents) (op : Operation) : Contents :=
  c.after (op.step c)

/-- What an operation can make of the contents: the same, if it fails, or what it is for. -/
inductive Steps (c : Contents) : Operation → Contents → Prop
  | failed {op : Operation} : Steps c op c
  | added {tasks : List NewTask} {c' : Contents} (h : c.addTasks tasks = .ok c') :
    Steps c (add tasks) c'
  | updated {id : Int} {task : NewTask} :
    Steps c (update id task) ((c.withoutTask id).withTask ⟨id, task⟩)
  | completed {id rowid : Int} {now : Timestamp} :
    Steps c (complete id now) (c.withCompletion ⟨rowid, id, now⟩)
  | changed {id rowid : Int} {status : TaskStatus} {now : Timestamp}
    (hfree : c.isCurrent id status = false) :
    Steps c (changeStatus id status now) (c.withChange ⟨rowid, id, now, status⟩)
  | removed {id : Int} : Steps c (remove id) (c.withoutTask id)

theorem steps_next (c : Contents) (op : Operation) : op.Steps c (op.next c) := by
  rw [next]
  cases op with
  | add ts =>
    cases hstep : c.addTasks ts with
    | error e => rw [step, hstep]; exact .failed
    | ok c' => rw [step, hstep]; exact .added hstep
  | update id t =>
    obtain ⟨e, -, he⟩ | ⟨-, hok⟩ := c.replaceTask_cases id t
    · rw [step, he]; exact .failed
    · rw [step, hok]; exact .updated
  | complete id now =>
    obtain ⟨e, -, he⟩ | ⟨rowid, -, -, hok⟩ := c.complete_cases id now
    · rw [step, he]; exact .failed
    · rw [step, hok]; exact .completed
  | changeStatus id status now =>
    obtain ⟨-, he⟩ | ⟨hfree, ⟨e, -, -, he⟩ | ⟨rowid, -, ⟨-, he⟩ | ⟨-, hok⟩⟩⟩ :=
      c.changeStatus_cases id status now
    · rw [step, he]; exact .failed
    · rw [step, he]; exact .failed
    · rw [step, he]; exact .failed
    · rw [step, hok]; exact .changed hfree
  | remove id => exact .removed

/-- The result of an operation. -/
def result (c : Contents) : Operation → Except SessionError Unit
  | add [] => .error (.batch (.empty "periodicTask"))
  | changeStatus id status now => ignoringDuplicate (resultOf (c.changeStatus id status now))
  | op => resultOf (op.step c)

end Operation

/-- The operation that adds a task which is done once in a year. -/
def addPlain (name : String) (year : Int) : Operation :=
  .add [⟨name, .newYear year, none⟩]

/-- The session on a new database with the tables of the tracker. -/
def initialSession : Session :=
  leftBy createTables (Session.start .empty)

/-- The session after operations, whether they succeed or fail. -/
def sessionAfter (ops : List Operation) : Session :=
  ops.foldl (fun s op => leftBy op.perform s) initialSession

/-- The contents after operations. -/
def contentsAfter (ops : List Operation) : Contents :=
  ops.foldl Operation.next .empty

/-! ## Runs -/

theorem Contents.Sound.next {c : Contents} (h : c.Sound) (op : Operation) : (op.next c).Sound := by
  rw [Operation.next]
  cases hstep : op.step c with
  | error e => exact h
  | ok c' =>
    cases op with
    | add ts => exact h.addTasks hstep
    | update id t => exact h.replaceTask hstep
    | complete id now => exact h.complete hstep
    | changeStatus id status now => exact h.changeStatus hstep
    | remove id => cases hstep; exact h.withoutTask id

/-- **An operation is a step on the contents.** -/
theorem Operation.effect {c : Contents} {s : Session} (op : Operation)
    (hs : s.database = c.database) (h : c.Sound) :
    Effect op.perform s (op.result c) (op.next c).database := by
  cases op with
  | add ts =>
    cases ts with
    | nil => exact fun hsaved => ⟨rfl, hs, hsaved⟩
    | cons t ts => exact Contents.effect_addTasks hs h (by simp)
  | update id t => exact Contents.effect_updateTask hs h id t
  | complete id now => exact Contents.effect_completeTask hs h id now
  | changeStatus id status now => exact Contents.effect_changeStatus hs h id status now
  | remove id => exact Contents.effect_removeTask hs h id

theorem sessionAfter_append (ops : List Operation) (op : Operation) :
    sessionAfter (ops ++ [op]) = leftBy op.perform (sessionAfter ops) := by
  rw [sessionAfter, List.foldl_append, List.foldl_cons, List.foldl_nil, ← sessionAfter]

theorem contentsAfter_append (ops : List Operation) (op : Operation) :
    contentsAfter (ops ++ [op]) = op.next (contentsAfter ops) := by
  rw [contentsAfter, List.foldl_append, List.foldl_cons, List.foldl_nil, ← contentsAfter]

/-- What holds at first and is preserved by every step holds after every run. -/
theorem contentsAfter_induction {p : List Operation → Contents → Prop} (hempty : p [] .empty)
    (hnext : ∀ ops op, p ops (contentsAfter ops) →
      p (ops ++ [op]) (op.next (contentsAfter ops))) (ops : List Operation) :
    p ops (contentsAfter ops) := by
  induction ops using List.reverseRecOn with
  | nil => exact hempty
  | append_singleton ops op ih =>
    rw [contentsAfter_append]
    exact hnext ops op ih

theorem sound_contentsAfter (ops : List Operation) : (contentsAfter ops).Sound :=
  contentsAfter_induction (p := fun _ c => c.Sound) Contents.sound_empty
    (fun _ op h => h.next op) ops

theorem initialSession_holds :
    initialSession.saved = none ∧ initialSession.database = Contents.empty.database :=
  ⟨effect_createTables.saved_leftBy rfl, effect_createTables.database_leftBy rfl⟩

/-- After every run of operations no transaction is open, and the tables hold what the steps make
of them. -/
theorem sessionAfter_holds (ops : List Operation) :
    (sessionAfter ops).saved = none ∧ (sessionAfter ops).database = (contentsAfter ops).database := by
  induction ops using List.reverseRecOn with
  | nil =>
    have hsession : sessionAfter [] = initialSession := by rw [sessionAfter, List.foldl_nil]
    have hcontents : contentsAfter [] = .empty := by rw [contentsAfter, List.foldl_nil]
    rw [hsession, hcontents]
    exact initialSession_holds
  | append_singleton ops op ih =>
    rw [sessionAfter_append, contentsAfter_append]
    have heffect := op.effect ih.2 (sound_contentsAfter ops)
    exact ⟨heffect.saved_leftBy ih.1, heffect.database_leftBy ih.1⟩

theorem saved_sessionAfter (ops : List Operation) : (sessionAfter ops).saved = none :=
  (sessionAfter_holds ops).1

/-- **After every run of operations the tables hold what the steps make of them.** -/
theorem database_sessionAfter (ops : List Operation) :
    (sessionAfter ops).database = (contentsAfter ops).database :=
  (sessionAfter_holds ops).2

/-- An operation after a run of operations. -/
theorem effect_after (ops : List Operation) (op : Operation) :
    Effect op.perform (sessionAfter ops) (op.result (contentsAfter ops))
      (op.next (contentsAfter ops)).database :=
  op.effect (database_sessionAfter ops) (sound_contentsAfter ops)

theorem effect_updateTask_after (ops : List Operation) (id : Int) (t : NewTask) :
    Effect (updateTask id t) (sessionAfter ops) (resultOf ((contentsAfter ops).replaceTask id t))
      ((contentsAfter ops).after ((contentsAfter ops).replaceTask id t)).database :=
  effect_after ops (.update id t)

theorem effect_changeStatus_after (ops : List Operation) (id : Int) (status : TaskStatus)
    (now : Timestamp) :
    Effect (changeStatus id status now) (sessionAfter ops)
      ((Operation.changeStatus id status now).result (contentsAfter ops))
      ((Operation.changeStatus id status now).next (contentsAfter ops)).database :=
  effect_after ops (.changeStatus id status now)

end Tablewright.Tracker
