import Tablewright.Proofs.Tracker.CallRuns

/-!
# What a deletion removes

In every store, whatever wrote its rows, a deletion removes exactly the rows that have all values of
its filter, and with a task exactly what refers to it (`deletions_exact`). A filter without a member
is refused.
-/

namespace Tablewright.Tracker

open Sql Database AccessModule Session

variable {k : TableName}

/-- NULL is equal to no member of a filter. -/
theorem valueIn_ne_null {p : Params .delete k.table} {row : Row} (h : k.selects p.value row = true)
    {c : String} (hc : (p.value c).isSome = true) : k.valueIn row c ≠ .null := by
  obtain ⟨v, hv⟩ := Option.isSome_iff_exists.1 hc
  have hcolumn : c ∈ columnNames .delete k.table := by
    by_contra hnot
    rw [p.fits.others c hnot] at hv
    cases hv
  have hequal : v = k.valueIn row c := by
    have := List.all_eq_true.1 h c hcolumn
    rw [hv] at this
    exact beq_iff_eq.1 this
  obtain ⟨m, hm, rfl⟩ := List.mem_map.1 hcolumn
  have hholds := p.fits.typed m hm v hv
  rw [← hequal]
  rintro rfl
  cases htype : m.type <;> rw [htype] at hholds <;> cases hholds

namespace Records

variable {r : Records}

/-- The rows that stay in the table itself. -/
theorem rows_without (r : Records) (k : TableName) (gone : Row → Bool) :
    ((r.without k gone).stored k).rows = (r.stored k).rows.filter (!gone ·) := by
  have hfilter : ∀ {α : Type} (f : α → Row) (l : List α),
      (l.filter fun a => !gone (f a)).map f = (l.map f).filter (!gone ·) := by
    intro α f l
    rw [List.filter_map]
    rfl
  cases k with
  | tasks => exact hfilter _ r.tasks
  | changes => exact hfilter _ r.changes
  | completions => exact hfilter _ r.completions

/-- Whether a row refers to a task that is deleted. -/
def refersTo (r : Records) (gone : Row → Bool) (k : TableName) (row : Row) : Bool :=
  (r.stored .tasks).rows.any fun t =>
    gone t && k.valueIn row "periodicTaskId" == .integer t.id

/-- The rows that stay in another table. -/
theorem rows_without_of_ne (h : r.Sound) {k' : TableName} (hk : k' ≠ k) (gone : Row → Bool) :
    ((r.without k gone).stored k').rows =
      (r.stored k').rows.filter fun row => !(k == .tasks && r.refersTo gone k' row) := by
  obtain ⟨hchanges, hcompletions⟩ := r.refersToTasks_iff.1 h.refers
  have hfilter : ∀ {α : Type} (f : α → Row) (task : α → Int) (l : List α),
      (∀ a ∈ l, r.hasTask (task a) = true) →
      (∀ a, k'.valueIn (f a) "periodicTaskId" = .integer (task a)) →
      (l.filter fun a => keeps { r with tasks := r.tasks.filter (!gone ·.row) } r (task a)).map f =
        (l.map f).filter fun row => !r.refersTo gone k' row := by
    intro α f task l hl hvalue
    rw [List.filter_map]
    refine congrArg _ (List.filter_congr fun a ha => ?_)
    rw [r.keeps_filter h.distinct (gone ·.row) (hl a ha), Function.comp_apply, refersTo, hvalue]
    have hrows : (r.stored .tasks).rows = r.tasks.map (·.row) := rfl
    rw [hrows, List.any_map]
    refine congrArg (fun f => !r.tasks.any f) (funext fun t => congrArg (gone t.row && ·) ?_)
    have hid : t.row.id = t.id := rfl
    rw [hid, Bool.eq_iff_iff, beq_iff_eq, beq_iff_eq, Value.integer.injEq, eq_comm]
  have hall : ∀ rows : List Row,
      rows.filter (fun row => !((TableName.changes == .tasks) && r.refersTo gone k' row)) = rows :=
    fun rows => List.filter_eq_self.2 fun _ _ => rfl
  cases k with
  | tasks =>
    cases k' with
    | tasks => exact absurd rfl hk
    | changes => exact hfilter ChangeRecord.row ChangeRecord.task r.changes hchanges fun _ => rfl
    | completions =>
      exact hfilter CompletionRecord.row CompletionRecord.task r.completions hcompletions
        fun _ => rfl
  | changes =>
    rw [hall]
    cases k' with
    | changes => exact absurd rfl hk
    | _ => rfl
  | completions =>
    refine Eq.trans ?_ (hall _).symm
    cases k' with
    | completions => exact absurd rfl hk
    | _ => rfl

/-- Without the task of an id. -/
theorem withoutTasks_of_not_mem {id : Int}
    (hnone : ∀ row ∈ (r.stored .tasks).rows, row.id ≠ id) : r.withoutTasks (·.id == id) = r := by
  refine r.withoutTasks_of_not_hasTask ?_
  rw [Bool.eq_false_iff]
  intro hid
  obtain ⟨t, ht, rfl⟩ := r.hasTask_iff.1 hid
  exact hnone t.row (List.mem_map.2 ⟨t, ht, rfl⟩) rfl

end Records

/-- **What a deletion removes**, in every store. With at least one member, it succeeds and removes
the rows that have the values of all members that are there; NULL is no such value. With a task goes
what refers to it, and nothing else. Without a member it fails and removes nothing. In particular,
removing a task removes it with its completions and changes of status, and nothing if there is no
such task. -/
theorem deletions_exact (calls : List Call) :
    let s := sessionAfterCalls calls
    (∀ (k : TableName) (p : Params .delete k.table),
      let s' := leftBy (deleteCall k p) s
      ((∃ c, (p.value c).isSome = true) →
        resultBy (deleteCall k p) s = .ok () ∧
        s'.database.rowsOf k.table.name =
          (s.database.rowsOf k.table.name).filter (fun row => !k.selects p.value row) ∧
        (∀ row, k.selects p.value row = true → ∀ c, (p.value c).isSome = true →
          k.valueIn row c ≠ .null) ∧
        ∀ k' : TableName, k' ≠ k → s'.database.rowsOf k'.table.name =
          (s.database.rowsOf k'.table.name).filter fun row => !(k == .tasks &&
            (s.database.rowsOf periodicTask.name).any fun t =>
              k.selects p.value t && k'.valueIn row "periodicTaskId" == .integer t.id)) ∧
      ((∀ c, p.value c = none) →
        (∃ e, resultBy (deleteCall k p) s = .error e) ∧ s'.database = s.database)) ∧
    ∀ id : Int,
      let s' := leftBy (removeTask id) s
      resultBy (removeTask id) s = .ok () ∧
      s'.database.rowsOf periodicTask.name =
        (s.database.rowsOf periodicTask.name).filter (·.id != id) ∧
      (∀ k : TableName, k ≠ .tasks → s'.database.rowsOf k.table.name =
        (s.database.rowsOf k.table.name).filter
          fun row => k.valueIn row "periodicTaskId" != .integer id) ∧
      ((∀ row ∈ s.database.rowsOf periodicTask.name, row.id ≠ id) → s'.database = s.database) := by
  intro s
  obtain ⟨r, h⟩ : ∃ r, IsStore s r := exists_records calls
  have hrows : ∀ k : TableName, s.database.rowsOf k.table.name = (r.stored k).rows := by
    intro k
    rw [h.database]
    exact r.rowsOf_stored k
  have htasks : s.database.rowsOf periodicTask.name = (r.stored .tasks).rows := hrows .tasks
  refine ⟨fun k p => ⟨fun ⟨c, hc⟩ => ?_, fun hnone => ?_⟩, fun id => ?_⟩
  · have hsome : filterFields p ≠ [] := by
      rw [ne_eq, filterFields_eq_nil]
      intro hnone
      rw [hnone c] at hc
      cases hc
    have heffect := effect_deleteCall h.database h.sound.refers hsome
    have hleft := heffect.database_leftBy h.saved
    refine ⟨heffect.resultBy_eq h.saved, ?_, fun row hrow c hc => valueIn_ne_null hrow hc,
      fun k' hk' => ?_⟩
    · rw [hleft, hrows, Records.rowsOf_stored, Records.rows_without]
    · rw [hleft, hrows, htasks, Records.rowsOf_stored, Records.rows_without_of_ne h.sound hk']
      rfl
  · have heffect := effect_deleteCall_empty (s := s) (filterFields_eq_nil.2 hnone)
    exact ⟨⟨_, heffect.resultBy_eq h.saved⟩, heffect.database_leftBy h.saved⟩
  · have heffect := effect_removeTask_records h.database h.sound.refers id
    have hleft := heffect.database_leftBy h.saved
    have hfilter : ∀ {α : Type} (f : α → Row) (keep : Row → Bool) (l : List α),
        (l.filter fun a => keep (f a)).map f = (l.map f).filter keep := by
      intro α f keep l
      rw [List.filter_map]
      rfl
    have hafter : ∀ k : TableName, (leftBy (removeTask id) s).database.rowsOf k.table.name =
        ((r.withoutTasks (·.id == id)).stored k).rows := by
      intro k
      rw [hleft, Records.rowsOf_stored]
    rw [r.withoutTasks_id h.sound.refers] at hafter
    have hvalue : ∀ a b : Int, (Value.integer a != .integer b) = (a != b) := by
      intro a b
      rw [Bool.eq_iff_iff, bne_iff_ne, bne_iff_ne, ne_eq, Value.integer.injEq]
    refine ⟨heffect.resultBy_eq h.saved, ?_, fun k hk => ?_, fun hnone => ?_⟩
    · exact (hafter .tasks).trans (htasks ▸ hfilter TaskRecord.row (·.id != id) r.tasks)
    · rw [hafter, hrows]
      cases k with
      | tasks => exact absurd rfl hk
      | changes =>
        refine Eq.trans ?_ (hfilter ChangeRecord.row _ r.changes)
        exact congrArg _ (List.filter_congr fun x _ => (hvalue x.task id).symm)
      | completions =>
        refine Eq.trans ?_ (hfilter CompletionRecord.row _ r.completions)
        exact congrArg _ (List.filter_congr fun x _ => (hvalue x.task id).symm)
    · rw [hleft, Records.withoutTasks_of_not_mem (htasks ▸ hnone), h.database]

/-- The filter for the name of a task. -/
def rentFilter : Params .delete TableName.tasks.table where
  value := membersOf [("name", some (.text "pay the rent"))]
  fits := fits_membersOf_singleton (m := ⟨mandatory "name" .text, .omittable⟩) (by decide) rfl

/-- The filter without members. -/
def emptyFilter : Params .delete TableName.tasks.table where
  value := fun _ => none
  fits := by
    refine ⟨fun m hm v hv => (by cases hv), fun m hm hneeded => ?_, fun _ _ => rfl⟩
    obtain ⟨c, -, rfl⟩ := List.mem_map.1 hm
    cases hneeded

/-- One task, deleted by its name, by no filter and by the id of another one. -/
theorem deletions_exact_of_oneTask :
    let s := sessionAfterCalls addsOneTask
    ((∃ c, (rentFilter.value c).isSome = true) ∧
      resultBy (deleteCall .tasks rentFilter) s = .ok () ∧
      (leftBy (deleteCall .tasks rentFilter) s).database.rowsOf periodicTask.name = []) ∧
    ((∀ c, emptyFilter.value c = none) ∧
      ∃ e, resultBy (deleteCall .tasks emptyFilter) s = .error e) ∧
    ((∀ row ∈ s.database.rowsOf periodicTask.name, row.id ≠ 2) ∧
      (leftBy (removeTask 2) s).database = s.database) := by
  have htasks : (sessionAfterCalls addsOneTask).database.rowsOf periodicTask.name =
      oneTask.tasks.map (·.row) := by
    rw [isStore_oneTask.database]
    exact oneTask.rowsOf_task
  have hname : (rentFilter.value "name").isSome = true := rfl
  have hother : ∀ row ∈ (sessionAfterCalls addsOneTask).database.rowsOf periodicTask.name,
      row.id ≠ 2 := by
    rw [htasks]
    decide
  obtain ⟨hdelete, hremove⟩ := deletions_exact addsOneTask
  obtain ⟨hfound, hnone⟩ := hdelete .tasks rentFilter
  obtain ⟨hok, hrows, _⟩ := hfound ⟨"name", hname⟩
  refine ⟨⟨⟨"name", hname⟩, hok, ?_⟩, ⟨fun _ => rfl, ?_⟩, hother, ?_⟩
  · refine hrows.trans ((congrArg (List.filter _) htasks).trans ?_)
    decide
  · exact ((hdelete .tasks emptyFilter).2 fun _ => rfl).1
  · exact (hremove 2).2.2.2 hother

end Tablewright.Tracker
