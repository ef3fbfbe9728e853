import Tablewright.Proofs.Tracker.CallRuns

/-!
# Changes of status in any store

What changing the status of a task comes to in every store, whatever wrote its rows
(`changeStatus_exact`): nothing is noted if the task has the status already, a task that is not there
is reported, and otherwise one change is noted. A failure changes nothing, and a change that is asked
for again is not noted again.
-/

namespace Tablewright.Tracker

open Sql Database AccessModule Session
open Contents (statusTaken)

/-- Some change of a task has a status, and no other one of the task is later as texts compare. -/
def HasStatus (changes : List Row) (task : Int) (status : String) : Prop :=
  ∃ x : ChangeRecord, x.row ∈ changes ∧ x.task = task ∧ x.status = status ∧
    ∀ y : ChangeRecord, y.row ∈ changes → y.task = task →
      compareText y.changedAt x.changedAt ≠ .gt

namespace Records

variable {r : Records} {id : Int} {status : TaskStatus}

theorem mem_changes_iff {x : ChangeRecord} : x.row ∈ r.changes.map (·.row) ↔ x ∈ r.changes :=
  List.mem_map_of_injective ChangeRecord.row_injective

/-- A status is the present one of a task, at whatever time it is asked for. -/
theorem isCurrent_iff {text : Option String} {word : String} :
    r.isCurrent ⟨some id, text, some word⟩ = true ↔
      HasStatus (r.changes.map (·.row)) id word := by
  have hlatest : ∀ x, r.isLatestTo ⟨some id, text, some word⟩ x = true ↔
      x.task = id ∧ x.status = word ∧
        ∀ y ∈ r.changes, y.task = id → compareText y.changedAt x.changedAt ≠ .gt := by
    intro x
    simp only [isLatestTo, ChangeRecord.isLater, Bool.and_eq_true, Bool.not_eq_true',
      List.any_eq_false, Option.some_beq_some, beq_iff_eq, not_and, and_assoc]
    constructor
    · rintro ⟨rfl, rfl, hlater⟩
      exact ⟨rfl, rfl, fun y hy htask => hlater y hy htask.symm⟩
    · rintro ⟨rfl, rfl, hlater⟩
      exact ⟨rfl, rfl, fun y hy htask => hlater y hy htask.symm⟩
  simp only [isCurrent, List.any_eq_true, hlatest, HasStatus, mem_changes_iff]

/-- A task with a status is there. -/
theorem hasTask_of_isCurrent (h : r.refersToTasks = true) {text : Option String} {word : String}
    (hcurrent : r.isCurrent ⟨some id, text, some word⟩ = true) : r.hasTask id = true := by
  obtain ⟨x, hx, rfl, -⟩ := isCurrent_iff.1 hcurrent
  exact (r.refersToTasks_iff.1 h).1 x (mem_changes_iff.1 hx)

/-- The change that is noted has the latest time of its task. -/
theorem isCurrent_withChange {x : ChangeRecord} {text : Option String}
    (h : ∀ y ∈ r.changes, y.task = x.task → compareText x.changedAt y.changedAt ≠ .lt) :
    (r.withChange x).isCurrent ⟨some x.task, text, some x.status⟩ = true := by
  refine isCurrent_iff.2 ⟨x, ?_, rfl, rfl, fun y hy htask => ?_⟩
  · exact mem_changes_iff.2 (List.mem_append.2 (.inr (List.mem_singleton.2 rfl)))
  · rcases List.mem_append.1 (mem_changes_iff.1 hy) with hy | hy
    · rw [compareText_swap]
      have := h y hy htask
      revert this
      cases compareText x.changedAt y.changedAt <;> simp
    · obtain rfl := List.mem_singleton.1 hy
      rw [(compareText_eq_iff _ _).2 rfl]
      simp

/-- What a request for a status does to the records. -/
theorem writeOne_status (h : r.refersToTasks = true) (id : Int) (status : TaskStatus)
    (now : Timestamp) :
    let v : ChangeValues := ⟨some id, some now.toText, some status.word⟩
    let o := r.writeOne .insert .changes (changeParams id status now).value
    r.isCurrent v = true ∧ o = .error statusTaken ∨
      r.isCurrent v = false ∧
        (nextId r.changeTable = .error .full ∧ o = .error .full ∨
          r.hasTask id = false ∧ o = .error .foreignKey ∨
          r.hasTask id = true ∧ ∃ rowid,
            o = .ok (r.withChange ⟨rowid, id, now.toText, status.word⟩, rowid)) := by
  intro v o
  have ho : o = r.writeOne .insert .changes (changeParams id status now).value := rfl
  have hvalues : ChangeValues.of (changeParams id status now).value = v := rfl
  rw [writeOne, write, hvalues, writeChange] at ho
  cases hcurrent : r.isCurrent v with
  | true =>
    rw [hcurrent] at ho
    exact .inl ⟨rfl, ho⟩
  | false =>
    refine .inr ⟨rfl, ?_⟩
    rw [hcurrent] at ho
    cases hnext : nextId r.changeTable with
    | error e =>
      obtain rfl := eq_full_of_nextId hnext
      rw [hnext] at ho
      exact .inl ⟨rfl, ho⟩
    | ok rowid =>
      have hcheck : ChangeRecord.check ⟨rowid, id, now.toText, status.word⟩ = .ok () := by
        cases status <;> rfl
      have hrefers : (r.withChange ⟨rowid, id, now.toText, status.word⟩).refersToTasks =
          r.hasTask id := by
        rw [refersToTasks_withChange, h, Bool.true_and]
      simp only [hnext, v, Bool.false_eq_true, if_false, ok_bind, nonNull, hcheck, pure, Except.pure,
        hrefers] at ho
      cases hid : r.hasTask id with
      | false =>
        rw [hid] at ho
        exact .inr (.inl ⟨rfl, ho⟩)
      | true =>
        rw [hid] at ho
        exact .inr (.inr ⟨rfl, rowid, ho⟩)

end Records

variable {s : Session} {r : Records}

/-- What changing the status of a task comes to in the records. -/
theorem effect_changeStatus_records (h : IsStore s r) (id : Int) (status : TaskStatus)
    (now : Timestamp) :
    let o := r.writeOne .insert .changes (changeParams id status now).value
    Effect (changeStatus id status now) s
      (ignoringDuplicate ((o.map fun _ => ()).mapError .database)) (r.after o).database := by
  rw [changeStatus_eq]
  exact effect_toleratingDuplicate
    (effect_writeOne h.database h.sound.refers (changeParams id status now))

/-- A request for the present status succeeds, and nothing is noted. -/
theorem effect_changeStatus_current (h : IsStore s r) {id : Int} {status : TaskStatus}
    {text : Option String} (hcurrent : r.isCurrent ⟨some id, text, some status.word⟩ = true)
    (now : Timestamp) : Effect (changeStatus id status now) s (.ok ()) r.database := by
  have hnow : r.isCurrent ⟨some id, some now.toText, some status.word⟩ = true :=
    Records.isCurrent_iff.2 (Records.isCurrent_iff.1 hcurrent)
  have heffect := effect_changeStatus_records h id status now
  obtain ⟨-, ho⟩ | ⟨hfree, -⟩ := Records.writeOne_status h.sound.refers id status now
  · rw [ho] at heffect
    exact heffect
  · rw [hnow] at hfree
    cases hfree

/-- **What changing the status of a task comes to**, in every store. It succeeds only if the task is
there, and then it does, as long as the row ids have not run out. A failure changes nothing. A success
notes nothing if the task has the status already, and else the one change. If the change is not
earlier than the others of the task, asking for the status again succeeds and notes nothing. -/
theorem changeStatus_exact (calls : List Call) (id : Int) (status : TaskStatus) (now : Timestamp) :
    let s := sessionAfterCalls calls
    let s' := leftBy (changeStatus id status now) s
    let result := resultBy (changeStatus id status now) s
    let changes := s.database.rowsOf statusChange.name
    (result = .ok () → ∃ row ∈ s.database.rowsOf periodicTask.name, row.id = id) ∧
    ((∀ row ∈ changes, row.id < maxInteger) →
      (∃ row ∈ s.database.rowsOf periodicTask.name, row.id = id) → result = .ok ()) ∧
    (result ≠ .ok () → s'.database = s.database) ∧
    (result = .ok () → HasStatus changes id status.word → s'.database = s.database) ∧
    (result = .ok () → ¬HasStatus changes id status.word →
      s'.database.rowsOf periodicTask.name = s.database.rowsOf periodicTask.name ∧
      s'.database.rowsOf doneTask.name = s.database.rowsOf doneTask.name ∧
      ∃ rowid, s'.database.rowsOf statusChange.name =
        changes ++ [ChangeRecord.row ⟨rowid, id, now.toText, status.word⟩]) ∧
    (result = .ok () →
      (∀ x : ChangeRecord, x.row ∈ changes → x.task = id →
        compareText now.toText x.changedAt ≠ .lt) →
      ∀ later, resultBy (changeStatus id status later) s' = .ok () ∧
        (leftBy (changeStatus id status later) s').database = s'.database) := by
  intro s s' result changes
  obtain ⟨r, h⟩ : ∃ r, IsStore s r := exists_records calls
  have hchanges : changes = r.changes.map (·.row) := by
    rw [show changes = s.database.rowsOf statusChange.name from rfl, h.database]
    exact r.rowsOf_change
  have htask : (∃ row ∈ s.database.rowsOf periodicTask.name, row.id = id) ↔
      r.hasTask id = true := by
    have hrows : s.database.rowsOf periodicTask.name = r.tasks.map (·.row) := by
      rw [h.database]
      exact r.rowsOf_task
    rw [hrows, r.hasTask_iff]
    simp [TaskRecord.row]
  have heffect := effect_changeStatus_records h id status now
  have hcurrent : HasStatus changes id status.word ↔
      r.isCurrent ⟨some id, some now.toText, some status.word⟩ = true := by
    rw [hchanges, Records.isCurrent_iff]
  -- Once the status is the present one, every further request for it is refused.
  have hrepeat : ∀ {r'} {text : Option String}, IsStore s' r' →
      r'.isCurrent ⟨some id, text, some status.word⟩ = true →
      ∀ later, resultBy (changeStatus id status later) s' = .ok () ∧
        (leftBy (changeStatus id status later) s').database = s'.database := by
    intro r' text h' hcurrent' later
    have hagain := effect_changeStatus_current h' hcurrent' later
    exact ⟨hagain.resultBy_eq h'.saved,
      (hagain.database_leftBy h'.saved).trans h'.database.symm⟩
  rw [htask, hcurrent]
  -- The results are put in terms of the session itself: to compare a field of it with that of the
  -- operation's outcome, the operation would be run.
  have hs' : leftBy (changeStatus id status now) s = s' := rfl
  obtain ⟨htaken, ho⟩ | ⟨hfree, ⟨hnext, ho⟩ | ⟨hid, ho⟩ | ⟨hid, rowid, ho⟩⟩ :=
    Records.writeOne_status h.sound.refers id status now
  all_goals
    rw [ho] at heffect
    have hleft := heffect.database_leftBy h.saved
    have hsaved := heffect.saved_leftBy h.saved
    rw [hs'] at hleft hsaved
    have hresult : result = _ := heffect.resultBy_eq h.saved
  · have hsame : s'.database = s.database := hleft.trans h.database.symm
    refine ⟨fun _ => Records.hasTask_of_isCurrent h.sound.refers htaken, fun _ _ => hresult,
      fun _ => hsame, fun _ _ => hsame, fun _ hnot => absurd htaken hnot, fun _ _ => ?_⟩
    exact hrepeat ⟨hsaved, hleft, h.sound⟩ htaken
  · have herror : result ≠ .ok () := by
      rw [hresult]
      exact fun hok => by cases hok
    refine ⟨fun hok => absurd hok herror, fun hroom _ => ?_,
      fun _ => hleft.trans h.database.symm, fun hok => absurd hok herror,
      fun hok => absurd hok herror, fun hok => absurd hok herror⟩
    rw [hchanges] at hroom
    obtain ⟨rowid, hrowid⟩ := exists_nextId (t := r.changeTable) rfl hroom
    cases hnext.symm.trans hrowid
  · have herror : result ≠ .ok () := by
      rw [hresult]
      exact fun hok => by cases hok
    refine ⟨fun hok => absurd hok herror, fun _ hthere => ?_,
      fun _ => hleft.trans h.database.symm, fun hok => absurd hok herror,
      fun hok => absurd hok herror, fun hok => absurd hok herror⟩
    rw [hid] at hthere
    cases hthere
  · have hadded : s'.database = _ := hleft
    refine ⟨fun _ => hid, fun _ _ => hresult, fun hnot => absurd hresult hnot, fun _ htaken => ?_,
      fun _ _ => ⟨?_, ?_, rowid, ?_⟩, fun _ hlatest => ?_⟩
    · rw [hfree] at htaken
      cases htaken
    · rw [hadded, h.database]
      rfl
    · rw [hadded, h.database]
      rfl
    · rw [hadded, hchanges]
      exact List.map_append
    · have hsound : (r.withChange ⟨rowid, id, now.toText, status.word⟩).Sound := by
        refine ⟨?_, h.sound.distinct⟩
        rw [Records.refersToTasks_withChange, h.sound.refers, hid]
        rfl
      have hnow : (r.withChange ⟨rowid, id, now.toText, status.word⟩).isCurrent
          ⟨some id, none, some status.word⟩ = true :=
        Records.isCurrent_withChange fun y hy hsame =>
          hlatest y (hchanges ▸ Records.mem_changes_iff.2 hy) hsame
      exact hrepeat ⟨hsaved, hadded, hsound⟩ hnow

/-- A task that is opened, and asked to be open again later. -/
theorem changeStatus_exact_of_oneTask :
    let s := sessionAfterCalls addsOneTask
    let s' := leftBy (changeStatus 1 .opened (.newYear 2025)) s
    (∀ row ∈ s.database.rowsOf statusChange.name, row.id < maxInteger) ∧
      (∃ row ∈ s.database.rowsOf periodicTask.name, row.id = 1) ∧
      (∃ rowid, s'.database.rowsOf statusChange.name =
        [ChangeRecord.row ⟨rowid, 1, (Timestamp.newYear 2025).toText, "open"⟩]) ∧
      resultBy (changeStatus 1 .opened (.newYear 2026)) s' = .ok () := by
  have hdatabase := isStore_oneTask.database
  have hchanges : (sessionAfterCalls addsOneTask).database.rowsOf statusChange.name = [] := by
    rw [hdatabase]
    exact oneTask.rowsOf_change
  have htask : ∃ row ∈ (sessionAfterCalls addsOneTask).database.rowsOf periodicTask.name,
      row.id = 1 := by
    rw [hdatabase]
    exact ⟨TaskRecord.row ⟨1, "pay the rent", "2024-01-01T00:00:00.000", none⟩,
      List.mem_singleton.2 rfl, rfl⟩
  have hroom : ∀ row ∈ (sessionAfterCalls addsOneTask).database.rowsOf statusChange.name,
      row.id < maxInteger := by
    rw [hchanges]
    exact fun _ h => absurd h List.not_mem_nil
  have hexact := changeStatus_exact addsOneTask 1 .opened (.newYear 2025)
  have hok := hexact.2.1 hroom htask
  have hnone : ¬HasStatus ((sessionAfterCalls addsOneTask).database.rowsOf statusChange.name) 1
      "open" := by
    rw [hchanges]
    rintro ⟨x, hx, -⟩
    exact absurd hx List.not_mem_nil
  obtain ⟨_, _, rowid, hadded⟩ := hexact.2.2.2.2.1 hok hnone
  have hlatest : ∀ x : ChangeRecord,
      x.row ∈ (sessionAfterCalls addsOneTask).database.rowsOf statusChange.name → x.task = 1 →
        compareText (Timestamp.newYear 2025).toText x.changedAt ≠ .lt := by
    rw [hchanges]
    exact fun _ h => absurd h List.not_mem_nil
  refine ⟨hroom, htask, ⟨rowid, ?_⟩, (hexact.2.2.2.2.2 hok hlatest (.newYear 2026)).1⟩
  rw [hadded, hchanges]
  rfl

end Tablewright.Tracker
