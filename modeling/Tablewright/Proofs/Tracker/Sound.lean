import Tablewright.Proofs.Tracker.Steps

/-!
# What every step preserves

The rows of the tables stand in the order of their ids, and every reference is to a task that is
there (`Contents.Sound`). Each step that succeeds keeps it so.
-/

namespace Tablewright.Tracker.Contents

open Sql Database

variable {c : Contents}

/-! ## References -/

theorem mem_insertTask {t u : StoredTask} {ts : List StoredTask} :
    u ∈ insertTask t ts ↔ u = t ∨ u ∈ ts := by
  induction ts with
  | nil => simp [insertTask]
  | cons other rest ih =>
    rw [insertTask]
    split
    · simp
    · simp only [List.mem_cons, ih]
      exact or_left_comm

theorem hasTask_withTask (t : StoredTask) (id : Int) :
    (c.withTask t).hasTask id = (t.id == id || c.hasTask id) := by
  rw [Bool.eq_iff_iff, Bool.or_eq_true, beq_iff_eq, hasTask_iff, hasTask_iff]
  constructor
  · rintro ⟨u, hu, hid⟩
    rcases mem_insertTask.1 hu with rfl | hu
    · exact .inl hid
    · exact .inr ⟨u, hu, hid⟩
  · rintro (hid | ⟨u, hu, hid⟩)
    · exact ⟨t, mem_insertTask.2 (.inl rfl), hid⟩
    · exact ⟨u, mem_insertTask.2 (.inr hu), hid⟩

theorem refersToTasks_withTask (h : c.refersToTasks = true) (t : StoredTask) :
    (c.withTask t).refersToTasks = true := by
  simp only [refersToTasks, Bool.and_eq_true, List.all_eq_true, hasTask_withTask,
    Bool.or_eq_true] at h ⊢
  exact ⟨fun x hx => .inr (h.1 x hx), fun x hx => .inr (h.2 x hx)⟩

/-- Nothing refers to a task that was deleted. -/
theorem refersToTasks_withoutTask (h : c.refersToTasks = true) (id : Int) :
    (c.withoutTask id).refersToTasks = true := by
  have hhas : ∀ task, c.hasTask task = true → (task != id) = true →
      (c.withoutTask id).hasTask task = true := by
    intro task ht hne
    obtain ⟨t, hmem, rfl⟩ := c.hasTask_iff.1 ht
    exact (c.withoutTask id).hasTask_iff.2 ⟨t, List.mem_filter.2 ⟨hmem, hne⟩, rfl⟩
  simp only [refersToTasks, Bool.and_eq_true, List.all_eq_true] at h ⊢
  constructor
  · intro x hx
    obtain ⟨hmem, hne⟩ := List.mem_filter.1 hx
    exact hhas _ (h.1 x hmem) hne
  · intro x hx
    obtain ⟨hmem, hne⟩ := List.mem_filter.1 hx
    exact hhas _ (h.2 x hmem) hne

theorem refersToTasks_withCompletion (x : Completion) :
    (c.withCompletion x).refersToTasks = (c.refersToTasks && c.hasTask x.task) := by
  have : (c.withCompletion x).refersToTasks =
      (c.changes.all (c.hasTask ·.task) && (c.completions ++ [x]).all (c.hasTask ·.task)) := rfl
  rw [this, List.all_append, refersToTasks]
  simp only [List.all_cons, List.all_nil, Bool.and_true, Bool.and_assoc]

theorem refersToTasks_withChange (x : StatusChange) :
    (c.withChange x).refersToTasks = (c.refersToTasks && c.hasTask x.task) := by
  have : (c.withChange x).refersToTasks =
      ((c.changes ++ [x]).all (c.hasTask ·.task) && c.completions.all (c.hasTask ·.task)) := rfl
  rw [this, List.all_append, refersToTasks]
  simp only [List.all_cons, List.all_nil, Bool.and_true, Bool.and_assoc]
  rw [Bool.and_comm (c.hasTask x.task)]

/-! ## Order -/

theorem pairwise_insertTask {t : StoredTask} {ts : List StoredTask}
    (h : ts.Pairwise (·.id < ·.id)) (hnew : ∀ u ∈ ts, u.id ≠ t.id) :
    (insertTask t ts).Pairwise (·.id < ·.id) := by
  induction ts with
  | nil => exact List.pairwise_singleton _ _
  | cons other rest ih =>
    obtain ⟨hother, hrest⟩ := List.pairwise_cons.1 h
    rw [insertTask]
    split
    · rename_i hlt
      refine List.pairwise_cons.2 ⟨fun u hu => ?_, h⟩
      rcases List.mem_cons.1 hu with rfl | hu
      · exact hlt
      · exact Int.lt_trans hlt (hother u hu)
    · rename_i hle
      refine List.pairwise_cons.2 ⟨fun u hu => ?_, ih hrest fun u hu => hnew u (by simp [hu])⟩
      rcases mem_insertTask.1 hu with rfl | hu
      · have := hnew other (by simp)
        omega
      · exact hother u hu

/-- Of tasks in the order of their ids, one at most has a given id. -/
theorem filter_id_eq {ts : List StoredTask} (h : ts.Pairwise (·.id < ·.id)) (id : Int) :
    ts.filter (·.id == id) = (ts.find? (·.id == id)).toList := by
  induction ts with
  | nil => rfl
  | cons t rest ih =>
    obtain ⟨hlt, hrest⟩ := List.pairwise_cons.1 h
    rw [List.filter_cons, List.find?_cons]
    cases hid : t.id == id with
    | false => simpa using ih hrest
    | true =>
      have : rest.filter (·.id == id) = [] := by
        rw [List.filter_eq_nil_iff]
        intro u hu hu'
        have := hlt u hu
        rw [beq_iff_eq] at hid hu'
        omega
      simp [this]

theorem hasTask_withoutTask (c : Contents) (id : Int) : (c.withoutTask id).hasTask id = false := by
  rw [Bool.eq_false_iff]
  intro h
  obtain ⟨t, ht, hid⟩ := (c.withoutTask id).hasTask_iff.1 h
  have := (List.mem_filter.1 ht).2
  rw [hid] at this
  simp at this

/-- A new id is the id of no task. -/
theorem hasTask_of_nextId {id : Int} (h : nextId c.taskTable = .ok id) : c.hasTask id = false := by
  rw [Bool.eq_false_iff]
  intro hid
  obtain ⟨t, ht, rfl⟩ := c.hasTask_iff.1 hid
  exact absurd ((lt_of_nextId h).1 t.row (List.mem_map.2 ⟨t, ht, rfl⟩)) (Int.lt_irrefl _)

theorem pairwise_append_singleton {α : Type} {r : α → α → Prop} {l : List α} {a : α}
    (h : l.Pairwise r) (ha : ∀ b ∈ l, r b a) : (l ++ [a]).Pairwise r := by
  refine List.pairwise_append.2 ⟨h, List.pairwise_singleton _ _, fun b hb d hd => ?_⟩
  rw [List.mem_singleton.1 hd]
  exact ha b hb

/-! ## Steps -/

/-- The rows stand in the order of their ids, and refer to tasks that are there. -/
structure Sound (c : Contents) : Prop where
  tasks : c.tasks.Pairwise (·.id < ·.id)
  changes : c.changes.Pairwise (·.rowid < ·.rowid)
  completions : c.completions.Pairwise (·.id < ·.id)
  refers : c.refersToTasks = true

theorem sound_empty : empty.Sound :=
  ⟨.nil, .nil, .nil, rfl⟩

theorem Sound.withTask (h : c.Sound) {t : StoredTask} (hnew : c.hasTask t.id = false) :
    (c.withTask t).Sound := by
  refine ⟨pairwise_insertTask h.tasks fun u hu hid => ?_, h.changes, h.completions,
    refersToTasks_withTask h.refers t⟩
  have : c.hasTask t.id = true := c.hasTask_iff.2 ⟨u, hu, hid⟩
  rw [hnew] at this
  cases this

theorem Sound.withoutTask (h : c.Sound) (id : Int) : (c.withoutTask id).Sound :=
  ⟨h.tasks.filter _, h.changes.filter _, h.completions.filter _,
    refersToTasks_withoutTask h.refers id⟩

theorem Sound.withCompletion (h : c.Sound) {x : Completion}
    (hnext : nextId c.completionTable = .ok x.id) (hx : c.hasTask x.task = true) :
    (c.withCompletion x).Sound := by
  refine ⟨h.tasks, h.changes, pairwise_append_singleton h.completions fun y hy => ?_, ?_⟩
  · exact (lt_of_nextId hnext).1 y.row (List.mem_map.2 ⟨y, hy, rfl⟩)
  · rw [refersToTasks_withCompletion, h.refers, hx, Bool.and_true]

theorem Sound.withChange (h : c.Sound) {x : StatusChange}
    (hnext : nextId c.changeTable = .ok x.rowid) (hx : c.hasTask x.task = true) :
    (c.withChange x).Sound := by
  refine ⟨h.tasks, pairwise_append_singleton h.changes fun y hy => ?_, h.completions, ?_⟩
  · exact (lt_of_nextId hnext).1 y.row (List.mem_map.2 ⟨y, hy, rfl⟩)
  · rw [refersToTasks_withChange, h.refers, hx, Bool.and_true]

theorem Sound.addTasks (h : c.Sound) {ts : List NewTask} {c' : Contents}
    (hadd : c.addTasks ts = .ok c') : c'.Sound :=
  addTasks_induction hadd h fun _ _ _ _ hnext hc => hc.withTask (hasTask_of_nextId hnext)

theorem Sound.replaceTask (h : c.Sound) {id : Int} {t : NewTask} {c' : Contents}
    (hreplace : c.replaceTask id t = .ok c') : c'.Sound := by
  obtain ⟨e, -, he⟩ | ⟨-, hok⟩ := c.replaceTask_cases id t
  · cases he.symm.trans hreplace
  · cases hok.symm.trans hreplace
    exact (h.withoutTask id).withTask (c.hasTask_withoutTask id)

theorem Sound.complete (h : c.Sound) {id : Int} {now : Timestamp} {c' : Contents}
    (hcomplete : c.complete id now = .ok c') : c'.Sound := by
  obtain ⟨e, -, he⟩ | ⟨rowid, hnext, hid, hok⟩ := c.complete_cases id now
  · cases he.symm.trans hcomplete
  · cases hok.symm.trans hcomplete
    exact h.withCompletion hnext hid

theorem Sound.changeStatus (h : c.Sound) {id : Int} {status : TaskStatus} {now : Timestamp}
    {c' : Contents} (hchange : c.changeStatus id status now = .ok c') : c'.Sound := by
  obtain ⟨-, he⟩ | ⟨-, ⟨e, -, -, he⟩ | ⟨rowid, hnext, ⟨-, he⟩ | ⟨hid, hok⟩⟩⟩ :=
    c.changeStatus_cases id status now
  · cases he.symm.trans hchange
  · cases he.symm.trans hchange
  · cases he.symm.trans hchange
  · cases hok.symm.trans hchange
    exact h.withChange hnext hid

end Tablewright.Tracker.Contents
