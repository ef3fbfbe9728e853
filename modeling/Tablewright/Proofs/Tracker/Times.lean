import Tablewright.Proofs.Tracker.Operations

/-!
# Times in the tables

All times in the tables come from operations: what holds of the times of all operations of a run
holds of the times in the tables after it (`allTimes_contentsAfter`).
-/

namespace Tablewright.Tracker

open Sql Database

/-- All times that an operation brings in have a property. -/
def Operation.AllTimes (p : Timestamp → Prop) : Operation → Prop
  | add tasks => ∀ t ∈ tasks, p t.startAt
  | update _ task => p task.startAt
  | complete _ now => p now
  | changeStatus _ _ now => p now
  | remove _ => True

namespace Contents

/-- All times in the tables have a property. -/
structure AllTimes (p : Timestamp → Prop) (c : Contents) : Prop where
  tasks : ∀ t ∈ c.tasks, p t.task.startAt
  changes : ∀ x ∈ c.changes, p x.changedAt
  completions : ∀ x ∈ c.completions, p x.doneAt

variable {c : Contents} {p : Timestamp → Prop}

theorem AllTimes.withTask (h : c.AllTimes p) {t : StoredTask} (ht : p t.task.startAt) :
    (c.withTask t).AllTimes p := by
  refine ⟨fun u hu => ?_, h.changes, h.completions⟩
  rcases mem_insertTask.1 hu with rfl | hu
  · exact ht
  · exact h.tasks u hu

theorem AllTimes.withoutTask (h : c.AllTimes p) (id : Int) : (c.withoutTask id).AllTimes p :=
  ⟨fun t ht => h.tasks t (List.mem_of_mem_filter ht),
    fun x hx => h.changes x (List.mem_of_mem_filter hx),
    fun x hx => h.completions x (List.mem_of_mem_filter hx)⟩

theorem AllTimes.withCompletion (h : c.AllTimes p) {x : Completion} (hx : p x.doneAt) :
    (c.withCompletion x).AllTimes p := by
  refine ⟨h.tasks, h.changes, fun y hy => ?_⟩
  rcases List.mem_append.1 hy with hy | hy
  · exact h.completions y hy
  · rwa [List.mem_singleton.1 hy]

theorem AllTimes.withChange (h : c.AllTimes p) {x : StatusChange} (hx : p x.changedAt) :
    (c.withChange x).AllTimes p := by
  refine ⟨h.tasks, fun y hy => ?_, h.completions⟩
  rcases List.mem_append.1 hy with hy | hy
  · exact h.changes y hy
  · rwa [List.mem_singleton.1 hy]

theorem AllTimes.next (h : c.AllTimes p) {op : Operation} (hop : op.AllTimes p) :
    (op.next c).AllTimes p := by
  have hstep := op.steps_next c
  generalize op.next c = c' at hstep ⊢
  cases hstep with
  | failed => exact h
  | added hadd =>
    exact addTasks_induction hadd h fun _ t _ ht _ hc => hc.withTask (hop t ht)
  | updated => exact (h.withoutTask _).withTask hop
  | completed => exact h.withCompletion hop
  | changed => exact h.withChange hop
  | removed => exact h.withoutTask _

end Contents

/-- **All times in the tables come from operations.** -/
theorem allTimes_contentsAfter {p : Timestamp → Prop} (ops : List Operation)
    (h : ∀ op ∈ ops, op.AllTimes p) : (contentsAfter ops).AllTimes p := by
  refine contentsAfter_induction (p := fun ops c => (∀ op ∈ ops, op.AllTimes p) → c.AllTimes p)
    (fun _ => ⟨?_, ?_, ?_⟩) (fun ops op ih hops => ?_) ops h
  · intro t ht
    cases ht
  · intro x hx
    cases hx
  · intro x hx
    cases hx
  · exact (ih fun o ho => hops o (by simp [ho])).next (hops op (by simp))

end Tablewright.Tracker
