import Tablewright.Proofs.Tracker.CallRuns

/-!
# What a failed batch leaves

A batch that fails leaves all tables as they were, unless a row is refused by the trigger on changes
of status: the trigger keeps what was written before. Then exactly the rows in front of the refused
one stay (`failedBatch_leaves`).
-/

namespace Tablewright.Tracker

open Sql Database AccessModule Session
open Contents (statusTaken)

namespace Records

variable {r : Records}

/-- How far the write of changes of status went. -/
structure WrittenChanges (r : Records) (ms : List Members) (written : List ChangeRecord)
    (r' : Records) : Prop where
  records : r' = { r with changes := r.changes ++ written }
  values : written.map (·.row.values) =
    (ms.take written.length).map fun m => suppliedValues m .changes

/-- Changes of status are written behind those that are there, up to one that fails. -/
theorem exists_writtenChanges (verb : WriteVerb) (ms : List Members) (p : Records × Int) :
    ∃ written, WrittenChanges p.1 ms written (writeEach verb .changes ms p).1.1 ∧
      ∀ e, (writeEach verb .changes ms p).2 = some e →
        ∃ m, ms[written.length]? = some m ∧
          (writeEach verb .changes ms p).1.1.write verb .changes m = .error e := by
  induction ms generalizing p with
  | nil => exact ⟨[], ⟨by simp [writeEach], rfl⟩, fun e he => by cases he⟩
  | cons m rest ih =>
    rw [writeEach]
    cases hwrite : p.1.write verb .changes m with
    | error e =>
      refine ⟨[], ⟨by simp, rfl⟩, fun e' he => ⟨m, rfl, ?_⟩⟩
      cases he
      exact hwrite
    | ok p' =>
      obtain ⟨written, hwritten, hfailed⟩ := ih p'
      obtain ⟨x, hx, -, hsupplied⟩ := exists_of_writeChange _ hwrite
      refine ⟨x :: written, ⟨?_, ?_⟩, hfailed⟩
      · rw [hwritten.records, hx]
        simp [withChange]
      · have hvalues : x.row.values = suppliedValues m .changes := by
          rw [suppliedValues, hsupplied]
          rfl
        rw [List.map_cons, hwritten.values, hvalues]
        rfl

/-- Why a write of rows fails: nothing of it stays, or all that was written when the trigger refused
a row. -/
theorem finish_eq_error {x : (Records × Int) × Option Failure} {e : Failure}
    (h : (r.finish x).2 = .error e) :
    isOfRow e = true ∧ (r.finish x).1 = r ∨
      isOfRow e = false ∧ x.2 = some e ∧ (r.finish x).1 = x.1.1 := by
  obtain ⟨p, failure⟩ := x
  cases failure with
  | none =>
    rw [finish] at h ⊢
    split at h
    · cases h
    · cases h
      rename_i hrefers
      rw [if_neg hrefers]
      exact .inl ⟨rfl, rfl⟩
  | some e' =>
    rw [finish] at h ⊢
    split at h
    · cases h
      rename_i hrow
      rw [if_pos hrow]
      exact .inl ⟨hrow, rfl⟩
    · rename_i hrow
      rw [if_neg hrow]
      split at h
      · cases h
        rename_i hrefers
        rw [if_pos hrefers]
        exact .inr ⟨Bool.eq_false_iff.2 hrow, rfl, rfl⟩
      · cases h
        rename_i hrefers
        rw [if_neg hrefers]
        exact .inl ⟨rfl, rfl⟩

/-- What a failed batch leaves of the records. -/
theorem writeBatch_failed {verb : WriteVerb} {k : TableName}
    {rows : List (Params (writeRole verb) k.table)} {last : Int} {e : SessionError}
    (h : (r.writeBatch verb k rows last).2 = .error e) :
    e ≠ .database statusTaken ∧ (r.writeBatch verb k rows last).1 = r ∨
      e = .database statusTaken ∧ k = .changes ∧
      ∃ written refused,
        WrittenChanges r (rows.map (·.value)) written (r.writeBatch verb k rows last).1 ∧
        (rows.map (·.value))[written.length]? = some refused ∧
        (r.writeBatch verb k rows last).1.isCurrent (.of refused) = true := by
  rw [writeBatch] at h ⊢
  cases hstatement : Batch.statement verb k.table.name (columnNames (writeRole verb) k.table)
      (rows.map rowFields) with
  | error e' =>
    rw [hstatement] at h
    cases h
    exact .inl ⟨by simp, rfl⟩
  | ok text =>
    simp only [hstatement] at h ⊢
    cases hfinish : (r.finish (writeEach verb k (rows.map (·.value)) (r, last))).2 with
    | ok last' =>
      rw [hfinish] at h
      cases h
    | error f =>
      rw [hfinish] at h
      cases h
      obtain ⟨hrow, hsame⟩ | ⟨hrow, hfailed, hkept⟩ := finish_eq_error hfinish
      · refine .inl ⟨?_, hsame⟩
        rintro ⟨⟩
        cases hrow
      · have hstopped : writeEach verb k (rows.map (·.value)) (r, last) =
            ((writeEach verb k (rows.map (·.value)) (r, last)).1, some f) := Prod.ext rfl hfailed
        obtain hrow' | ⟨rfl, rfl⟩ := writeEach_eq_error hstopped
        · rw [hrow] at hrow'
          cases hrow'
        obtain ⟨written, hwritten, hrefused⟩ :=
          exists_writtenChanges verb (rows.map (·.value)) (r, last)
        obtain ⟨refused, hat, hwrite⟩ := hrefused _ hfailed
        rw [hkept]
        refine .inr ⟨rfl, rfl, written, refused, hwritten, hat, ?_⟩
        obtain hrow' | ⟨-, hcurrent, -⟩ := write_eq_error _ hwrite
        · cases hrow'
        · exact hcurrent

end Records

/-- **What a failed batch leaves**: in every store, the tables as they were, unless the trigger
refuses a row. Then the rows in front of it stay behind those that were there, and the status of
its task is the one it asks for. -/
theorem failedBatch_leaves (calls : List Call) (verb : WriteVerb) (k : TableName)
    (rows : List (Params (writeRole verb) k.table)) (e : SessionError)
    (hfail : resultBy (writeCall verb k rows) (sessionAfterCalls calls) = .error e) :
    let s := sessionAfterCalls calls
    let s' := leftBy (writeCall verb k rows) s
    (e ≠ .database statusTaken →
      ∀ k' : TableName, s'.database.rowsOf k'.table.name = s.database.rowsOf k'.table.name) ∧
    (e = .database statusTaken → k = .changes ∧
      (∀ k' : TableName, k' ≠ .changes →
        s'.database.rowsOf k'.table.name = s.database.rowsOf k'.table.name) ∧
      ∃ written : List Row,
        s'.database.rowsOf statusChange.name = s.database.rowsOf statusChange.name ++ written ∧
        written.map (·.values) =
          (rows.take written.length).map (fun p => (ChangeValues.of p.value).stored) ∧
        ∃ refused r', rows[written.length]? = some refused ∧ s'.database = Records.database r' ∧
          r'.isCurrent (.of refused.value) = true) := by
  intro s s'
  obtain ⟨r, h⟩ := exists_records calls
  have hs : s.database = r.database := h.database
  have heffect := effect_writeCall h.database rows
  have hs' : s'.database = (r.writeBatch verb k rows s.lastId).1.database :=
    heffect.database_leftBy h.saved
  have hresult : (r.writeBatch verb k rows s.lastId).2.map (fun _ => ()) = .error e :=
    (heffect.resultBy_eq h.saved).symm.trans hfail
  have herror : (r.writeBatch verb k rows s.lastId).2 = .error e := by
    cases hbatch : (r.writeBatch verb k rows s.lastId).2 with
    | ok last => rw [hbatch] at hresult; cases hresult
    | error e' => rw [hbatch] at hresult; cases hresult; rfl
  rw [hs, hs']
  obtain ⟨hother, hsame⟩ | ⟨rfl, rfl, written, refused, hwritten, hat, hcurrent⟩ :=
    Records.writeBatch_failed herror
  · exact ⟨fun _ _ => by rw [hsame], fun hraised => absurd hraised hother⟩
  · refine ⟨fun hother => absurd rfl hother, fun _ => ⟨rfl, fun k' hk' => ?_,
      written.map (·.row), ?_, ?_, ?_⟩⟩
    · rw [hwritten.records]
      cases k' with
      | changes => exact absurd rfl hk'
      | _ => rfl
    · rw [hwritten.records]
      exact List.map_append
    · rw [List.map_map, List.length_map]
      refine hwritten.values.trans ?_
      rw [← List.map_take, List.map_map]
      rfl
    · rw [List.length_map]
      rw [List.getElem?_map] at hat
      obtain ⟨params, hparams, rfl⟩ := Option.map_eq_some_iff.1 hat
      exact ⟨params, _, hparams, rfl, hcurrent⟩

/-! ## A batch that leaves its first row -/

/-- The task is opened at a new year, and at the next one again. -/
def openedTwice : List (Params (writeRole .insert) TableName.changes.table) :=
  [changeParams 1 .opened (.newYear 2025), changeParams 1 .opened (.newYear 2026)]

/-- The first of these changes. -/
def firstOpening : ChangeRecord :=
  ⟨1, 1, "2025-01-01T00:00:00.000", "open"⟩

theorem effect_openedTwice :
    Effect (writeCall .insert .changes openedTwice) (sessionAfterCalls addsOneTask)
      (.error (.database statusTaken)) (oneTask.withChange firstOpening).database := by
  have heffect := effect_writeCall isStore_oneTask.database openedTwice
  generalize (sessionAfterCalls addsOneTask).lastId = last at heffect
  have hfirst : oneTask.write .insert .changes (changeParams 1 .opened (.newYear 2025)).value =
      .ok (oneTask.withChange firstOpening, 1) := by decide
  have hsecond : (oneTask.withChange firstOpening).write .insert .changes
      (changeParams 1 .opened (.newYear 2026)).value = .error statusTaken := by decide
  have hwritten : Records.writeEach .insert .changes (openedTwice.map (·.value)) (oneTask, last) =
      ((oneTask.withChange firstOpening, 1), some statusTaken) := by
    have hvalues : openedTwice.map (·.value) = [(changeParams 1 .opened (.newYear 2025)).value,
      (changeParams 1 .opened (.newYear 2026)).value] := rfl
    simp only [hvalues, Records.writeEach, hfirst, hsecond]
  have hfinish : oneTask.finish ((oneTask.withChange firstOpening, 1), some statusTaken) =
      (oneTask.withChange firstOpening, .error statusTaken) := by decide
  obtain ⟨text, htext⟩ : ∃ text, Batch.statement .insert TableName.changes.table.name
      (columnNames (writeRole .insert) TableName.changes.table) (openedTwice.map rowFields) =
        .ok text := ⟨_, rfl⟩
  rw [Records.writeBatch, htext] at heffect
  simp only [hwritten, hfinish] at heffect
  exact heffect

/-- **The first row of a failed batch stays.** The second one asks for the status that the first one
has given to the task, and is refused. -/
theorem failedBatch_keeps_first :
    let s := sessionAfterCalls addsOneTask
    let s' := leftBy (writeCall .insert .changes openedTwice) s
    resultBy (writeCall .insert .changes openedTwice) s = .error (.database statusTaken) ∧
      s.database.rowsOf statusChange.name = [] ∧
      s'.database.rowsOf statusChange.name =
        [⟨1, [.integer 1, .text "2025-01-01T00:00:00.000", .text "open"]⟩] := by
  have hsaved : (sessionAfterCalls addsOneTask).saved = none := isStore_oneTask.saved
  have hleft := effect_openedTwice.database_leftBy hsaved
  refine ⟨effect_openedTwice.resultBy_eq hsaved, ?_, ?_⟩
  · rw [isStore_oneTask.database]
    exact oneTask.rowsOf_change
  · rw [hleft]
    exact (oneTask.withChange firstOpening).rowsOf_change

/-- The run in which the first row stays. -/
theorem failedBatch_leaves_of_openedTwice :
    resultBy (writeCall .insert .changes openedTwice) (sessionAfterCalls addsOneTask) =
        .error (.database statusTaken) ∧
      ∃ written : List Row,
        (leftBy (writeCall .insert .changes openedTwice)
            (sessionAfterCalls addsOneTask)).database.rowsOf statusChange.name =
          (sessionAfterCalls addsOneTask).database.rowsOf statusChange.name ++ written := by
  have hfail : resultBy (writeCall .insert .changes openedTwice) (sessionAfterCalls addsOneTask) =
      .error (.database statusTaken) := effect_openedTwice.resultBy_eq isStore_oneTask.saved
  have hleaves := failedBatch_leaves addsOneTask .insert .changes openedTwice
    (.database statusTaken) hfail
  obtain ⟨_, _, written, hwritten, _⟩ := hleaves.2 rfl
  exact ⟨hfail, written, hwritten⟩

end Tablewright.Tracker
