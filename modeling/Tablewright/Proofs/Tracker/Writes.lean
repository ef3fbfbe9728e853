import Tablewright.Proofs.Tracker.Calls

/-!
# Writing rows through the generated functions

What the functions that write rows of the tables come to (`effect_writeCall`), for any parameters of
their types: the rows are written one after the other up to the first that fails
(`Records.writeEach`), and at the end every reference has to be to a task (`Records.finish`).
-/

namespace Tablewright.Tracker

open Sql Database AccessModule Session
open Contents (statusTaken)

namespace Records

variable (r : Records)

/-! ## Writing one row -/

/-- Write the row that members supply. -/
def write (verb : WriteVerb) (k : TableName) (m : Members) : Except Failure (Records × Int) :=
  match k with
  | .tasks => r.writeTask verb (.of m)
  | .changes => r.writeChange (.of m)
  | .completions => r.writeCompletion verb (.of m)

/-- Whether a completion refers to a task that is not there. -/
def isLost (k : TableName) (m : Members) : Bool :=
  k == .completions && !(CompletionValues.of m).task.any r.hasTask

/-- **One row is written** as `write` says. -/
theorem writeRow_stored (verb : WriteVerb) {atOnce : Bool} {k : TableName} {n : NewRow}
    {m : Members} (hn : Supplies (r.stored k) n (suppliedValues m k) (suppliedId m k))
    (hat : k = .changes → atOnce = false) :
    writeRow verb atOnce r.database .main (r.stored k) n = (do
      let x ← r.write verb k m
      if atOnce && x.1.isLost k m then throw .foreignKey
      return (x.1.database, x.2)) := by
  cases k with
  | tasks =>
    have hnever : ∀ r' : Records, r'.isLost .tasks m = false := fun _ => rfl
    simp only [hnever, Bool.and_false, Bool.false_eq_true, if_false]
    refine (r.writeRow_task verb atOnce hn.1 hn.2).trans ?_
    rw [write]
    cases r.writeTask verb (.of m) <;> rfl
  | changes =>
    obtain rfl := hat rfl
    refine (r.writeRow_change verb hn.1 hn.2).trans ?_
    rw [write]
    cases r.writeChange (.of m) <;> rfl
  | completions => exact r.writeRow_completion verb atOnce hn.1 hn.2

/-- Why a row is not written: it is wrong in itself, or the trigger refuses it. -/
theorem write_eq_error {verb : WriteVerb} {k : TableName} {m : Members} {e : Failure}
    (h : r.write verb k m = .error e) :
    isOfRow e = true ∨ k = .changes ∧ r.isCurrent (.of m) = true ∧ e = statusTaken := by
  have hid : ∀ {t o e}, newId t o = .error e → isOfRow e = true := by
    intro t o e h
    cases o with
    | none => exact isOfRow_of_nextId h
    | some id => cases h
  have hnull : ∀ {α : Type} {table column : String} {o : Option α} {e},
      nonNull table column o = .error e → isOfRow e = true := by
    intro α table column o e h
    cases o with
    | none => cases h; rfl
    | some a => cases h
  cases k with
  | tasks =>
    refine .inl ?_
    rw [write, writeTask] at h
    obtain h | ⟨id, -, h⟩ := bind_eq_error_iff.1 h
    · exact hid h
    obtain h | ⟨name, -, h⟩ := bind_eq_error_iff.1 h
    · exact hnull h
    obtain h | ⟨startAt, -, h⟩ := bind_eq_error_iff.1 h
    · exact hnull h
    obtain h | ⟨_, -, h⟩ := bind_eq_error_iff.1 h
    · rw [TaskRecord.check] at h
      split at h
      · cases h; rfl
      · split at h <;> cases h
        rfl
    obtain h | ⟨free, -, h⟩ := bind_eq_error_iff.1 h
    · cases verb with
      | insert =>
        rw [freeTask] at h
        split at h <;> cases h
        rfl
      | replace => cases h
    · cases h
  | changes =>
    rw [write, writeChange] at h
    cases hcurrent : r.isCurrent (.of m) with
    | true =>
      rw [hcurrent] at h
      exact .inr ⟨rfl, rfl, (Except.error.inj h).symm⟩
    | false =>
      refine .inl ?_
      simp only [hcurrent, Bool.false_eq_true, if_false] at h
      obtain h | ⟨rowid, -, h⟩ := bind_eq_error_iff.1 h
      · exact isOfRow_of_nextId h
      obtain h | ⟨task, -, h⟩ := bind_eq_error_iff.1 h
      · exact hnull h
      obtain h | ⟨changedAt, -, h⟩ := bind_eq_error_iff.1 h
      · exact hnull h
      obtain h | ⟨status, -, h⟩ := bind_eq_error_iff.1 h
      · exact hnull h
      obtain h | ⟨_, -, h⟩ := bind_eq_error_iff.1 h
      · rw [ChangeRecord.check] at h
        split at h <;> cases h
        rfl
      · cases h
  | completions =>
    refine .inl ?_
    rw [write, writeCompletion] at h
    obtain h | ⟨id, -, h⟩ := bind_eq_error_iff.1 h
    · exact hid h
    obtain h | ⟨task, -, h⟩ := bind_eq_error_iff.1 h
    · exact hnull h
    obtain h | ⟨doneAt, -, h⟩ := bind_eq_error_iff.1 h
    · exact hnull h
    obtain h | ⟨free, -, h⟩ := bind_eq_error_iff.1 h
    · cases verb with
      | insert =>
        rw [freeCompletion] at h
        split at h <;> cases h
        rfl
      | replace => cases h
    · cases h

/-! ## Writing several rows -/

/-- Write rows one after the other, and say how far it went. -/
def writeEach (verb : WriteVerb) (k : TableName) :
    List Members → Records × Int → (Records × Int) × Option Failure
  | [], p => (p, none)
  | m :: rest, p =>
    match p.1.write verb k m with
    | .ok p' => writeEach verb k rest p'
    | .error e => (p, some e)

/-- What comes of a write, by how far it went: all of it is undone if a row is wrong or refers to
no task, but not if the trigger refuses a row. -/
def finish : (Records × Int) × Option Failure → Records × Except Failure Int
  | (p, none) => if p.1.refersToTasks then (p.1, .ok p.2) else (r, .error .foreignKey)
  | (p, some e) =>
    if isOfRow e then (r, .error e)
    else if p.1.refersToTasks then (p.1, .error e)
    else (r, .error .foreignKey)

variable {r}

theorem writeEach_eq_error {verb : WriteVerb} {k : TableName} {ms : List Members}
    {p p' : Records × Int} {e : Failure} (h : writeEach verb k ms p = (p', some e)) :
    isOfRow e = true ∨ k = .changes ∧ e = statusTaken := by
  induction ms generalizing p with
  | nil => cases h
  | cons m rest ih =>
    rw [writeEach] at h
    cases hm : p.1.write verb k m with
    | ok p₁ =>
      rw [hm] at h
      exact ih h
    | error e' =>
      obtain ⟨rfl, rfl⟩ : p = p' ∧ e' = e := by simpa [hm] using h
      exact (p.1.write_eq_error hm).imp_right fun h => ⟨h.1, h.2.2⟩

/-- How far the write of rows goes in the database. -/
theorem writeRows_stored (verb : WriteVerb) {k : TableName} {ns : List NewRow} {ms : List Members}
    (hn : List.Forall₂ (fun n m => ∀ r : Records,
      Supplies (r.stored k) n (suppliedValues m k) (suppliedId m k)) ns ms) (p : Records × Int) :
    writeRows verb false .main k.table.name ns ⟨p.1.database, p.2⟩ =
      (⟨(writeEach verb k ms p).1.1.database, (writeEach verb k ms p).1.2⟩,
        (writeEach verb k ms p).2) := by
  induction hn generalizing p with
  | nil => rfl
  | @cons n m ns ms hm _ ih =>
    have htable : (p.1.database.schema .main).table? k.table.name = some (p.1.stored k) :=
      p.1.table?_stored k
    have hrowid : (p.1.stored k).isWithoutRowid = false := by cases k <;> rfl
    simp only [writeRows, htable, p.1.writeRow_stored verb (hm p.1) fun _ => rfl, writeEach]
    cases hwrite : p.1.write verb k m with
    | ok p' =>
      simp only [ok_bind, Bool.false_and, Bool.false_eq_true, if_false, pure, Except.pure, hrowid]
      exact ih p'
    | error e =>
      obtain he | ⟨-, -, rfl⟩ := p.1.write_eq_error hwrite
      · cases e <;> first | rfl | cases he
      · rfl

/-! ## The end of a write -/

/-- A statement ends with a result, and with rows in the tables. -/
def Ends (o : Outcome) : Records × Except Failure Int → Prop
  | (r, .ok last) => o = ⟨r.database, last, .ok []⟩
  | (r, .error e) => o.database = r.database ∧ o.result = .error e

theorem atEnd_main (r : Records) (p : Records × Int) (result : Except Failure (List (List Value))) :
    r.database.atEnd .main ⟨p.1.database, p.2⟩ result =
      if p.1.refersToTasks then ⟨p.1.database, p.2, result⟩
      else ⟨r.database, p.2, .error .foreignKey⟩ := by
  have horphans : hasOrphans (p.1.database.schema .main) = !p.1.refersToTasks :=
    p.1.hasOrphans_main
  rw [atEnd, horphans]
  cases p.1.refersToTasks <;> rfl

/-- **The end of a write** whose rows are tested at the end. -/
theorem ends_writeEach (verb : WriteVerb) (k : TableName) (ms : List Members) (r : Records)
    (last : Int) (targets : List (Option Nat)) (atOnce : Bool) :
    Ends (r.database.endWrite ⟨.main, r.stored k, targets, atOnce⟩
      (⟨(writeEach verb k ms (r, last)).1.1.database, (writeEach verb k ms (r, last)).1.2⟩,
        (writeEach verb k ms (r, last)).2)) (r.finish (writeEach verb k ms (r, last))) := by
  generalize hx : writeEach verb k ms (r, last) = x
  obtain ⟨p, failure⟩ := x
  cases failure with
  | none =>
    simp only [endWrite, atEnd_main, finish]
    cases p.1.refersToTasks
    · exact ⟨rfl, rfl⟩
    · exact rfl
  | some e =>
    obtain he | ⟨rfl, rfl⟩ := writeEach_eq_error hx
    · rw [endWrite_of_isOfRow he, finish, if_pos he]
      exact ⟨rfl, rfl⟩
    · have hrestore : (⟨p.1.database.setSchema .main (restoreCounter (p.1.database.schema .main)
          (r.stored .changes).name (r.stored .changes).counter), p.2⟩ : Progress) =
          ⟨p.1.database, p.2⟩ := rfl
      have hraised : isOfRow statusTaken = false := rfl
      simp only [statusTaken, endWrite, hrestore, atEnd_main, finish]
      cases p.1.refersToTasks <;> exact ⟨rfl, rfl⟩

/-- A completion that is written refers to what its members give. -/
theorem refersToTasks_of_isLost {r' : Records} {verb : WriteVerb} {k : TableName} {m : Members}
    {id : Int} (h : r.write verb k m = .ok (r', id)) (hlost : r'.isLost k m = true) :
    r'.refersToTasks = false := by
  rw [isLost, Bool.and_eq_true, beq_iff_eq] at hlost
  obtain ⟨rfl, hlost⟩ := hlost
  rw [write, writeCompletion] at h
  obtain ⟨id, -, h⟩ := exists_of_bind_eq_ok h
  obtain ⟨task, htask, h⟩ := exists_of_bind_eq_ok h
  obtain ⟨doneAt, -, h⟩ := exists_of_bind_eq_ok h
  obtain ⟨free, -, h⟩ := exists_of_bind_eq_ok h
  cases h
  rw [eq_some_of_nonNull htask] at hlost
  rw [Bool.eq_false_iff, Ne, refersToTasks_iff]
  rintro ⟨-, hall⟩
  have := hall ⟨id, task, doneAt⟩ (mem_insertById.2 (.inl rfl))
  rw [Option.any_some, this] at hlost
  cases hlost

/-- **The end of a write** of one row that is tested at once. -/
theorem ends_writeSingle (verb : WriteVerb) {k : TableName} (hk : k ≠ .changes) {n : NewRow}
    {m : Members} (r : Records) (hn : Supplies (r.stored k) n (suppliedValues m k) (suppliedId m k))
    (last : Int) (targets : List (Option Nat)) :
    Ends (r.database.endWrite ⟨.main, r.stored k, targets, true⟩
      (writeRows verb true .main k.table.name [n] ⟨r.database, last⟩))
      (r.finish (writeEach verb k [m] (r, last))) := by
  have htable : (r.database.schema .main).table? k.table.name = some (r.stored k) :=
    r.table?_stored k
  have hrowid : (r.stored k).isWithoutRowid = false := by cases k <;> rfl
  have hend := ends_writeEach verb k [m] r last targets true
  simp only [writeEach] at hend ⊢
  simp only [writeRows, htable, r.writeRow_stored verb hn fun h => absurd h hk, Bool.true_and]
  cases hwrite : r.write verb k m with
  | error e =>
    rw [hwrite] at hend
    obtain he | ⟨rfl, -⟩ := r.write_eq_error hwrite
    · cases e <;> first | exact hend | cases he
    · exact absurd rfl hk
  | ok p =>
    rw [hwrite] at hend
    simp only [ok_bind, hrowid]
    cases hlost : p.1.isLost k m with
    | false => exact hend
    | true =>
      have hrefers := refersToTasks_of_isLost hwrite hlost
      simp only [finish, hrefers]
      exact ⟨rfl, rfl⟩

end Records

end Tablewright.Tracker
