import Tablewright.Proofs.FallibleSteps
import Tablewright.Proofs.Statement.Binding
import Tablewright.Session.Basic

/-!
# What operations of a session come to

An operation of a session comes to a result and a database (`Effect`), outside of a transaction;
what it notes in the journal is left out here. A batch comes to what its write comes to in the
database (`effect_write`).
-/

namespace Tablewright.Session

open Sql Database Batch

/-- An operation, begun outside of a transaction, ends outside of one with a result and a
database. -/
def Effect {α : Type} (operation : SessionM α) (s : Session) (result : Except SessionError α)
    (db : Database) : Prop :=
  s.saved = none → (operation.run.run s).1 = result ∧ (operation.run.run s).2.database = db ∧
    (operation.run.run s).2.saved = none

/-- The result of an operation. -/
def resultBy {α : Type} (operation : SessionM α) (s : Session) : Except SessionError α :=
  (operation.run.run s).1

/-- The session that an operation leaves. -/
def leftBy {α : Type} (operation : SessionM α) (s : Session) : Session :=
  (operation.run.run s).2

theorem Effect.resultBy_eq {α : Type} {operation : SessionM α} {s : Session}
    {result : Except SessionError α} {db : Database} (h : Effect operation s result db)
    (hs : s.saved = none) : resultBy operation s = result :=
  (h hs).1

theorem Effect.database_leftBy {α : Type} {operation : SessionM α} {s : Session}
    {result : Except SessionError α} {db : Database} (h : Effect operation s result db)
    (hs : s.saved = none) : (leftBy operation s).database = db :=
  (h hs).2.1

theorem Effect.saved_leftBy {α : Type} {operation : SessionM α} {s : Session}
    {result : Except SessionError α} {db : Database} (h : Effect operation s result db)
    (hs : s.saved = none) : (leftBy operation s).saved = none :=
  (h hs).2.2

/-- Outside of a transaction there is nothing that a failure could end. -/
theorem afterFailure_of_saved {s : Session} (h : s.saved = none) (failure : Option Failure) :
    afterFailure failure s = s := by
  obtain ⟨db, lastId, saved, journal⟩ := s
  subst h
  rw [afterFailure]
  split <;> rfl

theorem runQuery_of_saved {s : Session} (h : s.saved = none) (text : String)
    (parameters : Parameters) :
    let o := s.database.runQuery s.lastId text parameters
    runQuery text parameters s = (Session.result o.result,
      { note [.statement text (some parameters)] s with
        database := o.database, lastId := o.lastId }) := by
  intro o
  unfold runQuery
  dsimp only
  rw [afterFailure_of_saved (by exact h)]

theorem run_query (text : String) (parameters : Parameters) (s : Session) :
    (query text parameters).run.run s = runQuery text parameters s := by
  unfold query ExceptT.run StateT.run
  rfl

theorem run_execute (text : String) (s : Session) :
    (execute text).run.run s = runScript text s := by
  unfold execute ExceptT.run StateT.run
  rfl

theorem effect_query (text : String) (parameters : Parameters) (s : Session) :
    Effect (query text parameters) s
      (Session.result (s.database.runQuery s.lastId text parameters).result)
      (s.database.runQuery s.lastId text parameters).database := by
  intro hs
  rw [run_query, runQuery_of_saved hs]
  generalize s.database.runQuery s.lastId text parameters = o
  exact ⟨rfl, rfl, hs⟩

/-- The session that a script leaves. -/
theorem leftBy_execute {text : String} {s : Session} {o : ScriptOutcome}
    (h : s.database.runScript s.lastId text = o) :
    leftBy (execute text) s = afterFailure o.failure
      { note [.statement text none] s with database := o.database, lastId := o.lastId } := by
  rw [leftBy, run_execute]
  unfold runScript
  rw [h]
  obtain ⟨db, lastId, failure⟩ := o
  cases failure <;> rfl

/-- A script that comes to its end. -/
theorem effect_execute {text : String} {s : Session} {o : ScriptOutcome}
    (h : s.database.runScript s.lastId text = o) (hok : o.failure = none) :
    Effect (execute text) s (.ok ()) o.database := by
  intro hs
  unfold execute ExceptT.run StateT.run runScript
  dsimp only
  rw [h, hok]
  exact ⟨rfl, rfl, hs⟩

/-- The result of a statement of which no rows are asked for. -/
def writeResult (o : Outcome) : Except SessionError Unit :=
  (Session.result o.result).map fun _ => ()

theorem Effect.of_outcome_eq {operation : SessionM Unit} {s : Session} {o o' : Outcome}
    (h : Effect operation s (writeResult o) o.database) (ho : o = o') :
    Effect operation s (writeResult o') o'.database :=
  ho ▸ h

/-- A query of which the rows are not asked for. -/
theorem effect_query_ignored (text : String) (parameters : Parameters) (s : Session) :
    Effect (do let _ ← query text parameters) s
      (writeResult (s.database.runQuery s.lastId text parameters))
      (s.database.runQuery s.lastId text parameters).database := by
  intro hs
  rw [run_bind, run_query, runQuery_of_saved hs, writeResult]
  generalize s.database.runQuery s.lastId text parameters = o
  cases o.result <;> exact ⟨rfl, rfl, hs⟩

/-- A query of which the rows are noted and then used. -/
theorem effect_query_noted {α : Type} (text : String) (parameters : Parameters)
    (entries : List (List Value) → List JournalEntry) (f : List (List Value) → α) (s : Session) :
    Effect (do
        let rows ← query text parameters
        modify (note (entries rows))
        return f rows) s
      ((Session.result (s.database.runQuery s.lastId text parameters).result).map f)
      (s.database.runQuery s.lastId text parameters).database := by
  intro hs
  rw [run_bind, run_query, runQuery_of_saved hs]
  generalize s.database.runQuery s.lastId text parameters = o
  cases o.result <;> exact ⟨rfl, rfl, hs⟩

/-- A batch with a statement is the query of it. -/
theorem write_eq_query {verb : WriteVerb} {table : String} {columns : List String}
    {rows : List Fields} {text : String} {parameters : Parameters}
    (h : statement verb table columns rows = .ok (text, parameters)) :
    write verb table columns rows = (do let _ ← query text parameters) := by
  rw [write, h]

theorem run_write_of_error {verb : WriteVerb} {table : String} {columns : List String}
    {rows : List Fields} {e : BatchError} (h : statement verb table columns rows = .error e)
    (s : Session) : (write verb table columns rows).run.run s = (.error (.batch e), s) := by
  rw [write, h]
  rfl

theorem run_write {verb : WriteVerb} {table : String} {columns : List String}
    {rows : List Fields} {text : String} {parameters : Parameters}
    (h : statement verb table columns rows = .ok (text, parameters)) (s : Session) :
    (write verb table columns rows).run.run s =
      ((runQuery text parameters s).1.map fun _ => (), (runQuery text parameters s).2) := by
  rw [write_eq_query h, run_bind, run_query]
  generalize runQuery text parameters s = o
  obtain ⟨r, s'⟩ := o
  cases r <;> rfl

theorem effect_write_of_error {verb : WriteVerb} {table : String} {columns : List String}
    {rows : List Fields} {e : BatchError} (h : statement verb table columns rows = .error e)
    (s : Session) : Effect (write verb table columns rows) s (.error (.batch e)) s.database := by
  intro hs
  rw [run_write_of_error h]
  exact ⟨rfl, rfl, hs⟩

/-- **A batch comes to what its statement comes to in the database.** -/
theorem effect_write {verb : WriteVerb} {table : String} {columns : List String}
    {rows : List Fields} {text : String} {parameters : Parameters}
    (h : statement verb table columns rows = .ok (text, parameters)) (s : Session) :
    Effect (write verb table columns rows) s
      (writeResult (s.database.runQuery s.lastId text parameters))
      (s.database.runQuery s.lastId text parameters).database := by
  rw [write_eq_query h]
  exact effect_query_ignored text parameters s

theorem lastId_afterFailure (failure : Option Failure) (s : Session) :
    (afterFailure failure s).lastId = s.lastId := by
  rw [afterFailure]
  split <;> rfl

theorem journal_afterFailure (failure : Option Failure) (s : Session) :
    (afterFailure failure s).journal = s.journal := by
  rw [afterFailure]
  split <;> rfl

theorem lastId_runQuery (text : String) (parameters : Parameters) (s : Session) :
    (runQuery text parameters s).2.lastId = (s.database.runQuery s.lastId text parameters).lastId := by
  unfold runQuery
  generalize s.database.runQuery s.lastId text parameters = o
  exact lastId_afterFailure _ _

theorem journal_runQuery (text : String) (parameters : Parameters) (s : Session) :
    (runQuery text parameters s).2.journal =
      s.journal ++ [.statement text (some parameters)] := by
  unfold runQuery
  generalize s.database.runQuery s.lastId text parameters = o
  exact journal_afterFailure _ _

/-- The row id that a batch writes last, in or out of a transaction. -/
theorem lastId_leftBy_write {verb : WriteVerb} {table : String} {columns : List String}
    {rows : List Fields} {text : String} {parameters : Parameters}
    (h : statement verb table columns rows = .ok (text, parameters)) (s : Session) :
    (leftBy (write verb table columns rows) s).lastId =
      (s.database.runQuery s.lastId text parameters).lastId := by
  rw [leftBy, run_write h, lastId_runQuery]

/-- **A batch fails as one exactly if it has no statement.** -/
theorem resultBy_write_eq_batch_iff {verb : WriteVerb} {table : String} {columns : List String}
    {rows : List Fields} {e : BatchError} (s : Session) :
    resultBy (write verb table columns rows) s = .error (.batch e) ↔
      statement verb table columns rows = .error e := by
  cases hstatement : statement verb table columns rows with
  | error e' =>
    rw [resultBy, run_write_of_error hstatement]
    simp
  | ok statement =>
    obtain ⟨text, parameters⟩ := statement
    rw [resultBy, run_write hstatement]
    unfold runQuery
    dsimp only
    rw [Session.result]
    cases (s.database.runQuery s.lastId text parameters).result <;>
      simp [Except.mapError, Except.map]

/-- **A batch notes its statement, if it has one.** -/
theorem journal_leftBy_write_iff {verb : WriteVerb} {table : String} {columns : List String}
    {rows : List Fields} {text : String} {parameters : Parameters} (s : Session) :
    (leftBy (write verb table columns rows) s).journal =
        s.journal ++ [.statement text (some parameters)] ↔
      statement verb table columns rows = .ok (text, parameters) := by
  cases hstatement : statement verb table columns rows with
  | error e =>
    rw [leftBy, run_write_of_error hstatement]
    simp
  | ok statement =>
    obtain ⟨text', parameters'⟩ := statement
    rw [leftBy, run_write hstatement, journal_runQuery]
    simp

/-- What is noted first makes no difference. -/
theorem effect_noted {α : Type} {operation : SessionM α} {entries : List JournalEntry}
    {s : Session} {r : Except SessionError α} {db : Database}
    (h : Effect operation (note entries s) r db) :
    Effect (do modify (note entries); operation) s r db := by
  intro hs
  have hnote : (modify (note entries) : SessionM Unit).run.run s = (.ok (), note entries s) := rfl
  rw [run_bind, hnote]
  exact h hs

/-- **A deletion comes to what its statement comes to in the database.** -/
theorem effect_delete (table : String) (fields : Fields) (s : Session) :
    Effect (delete table fields) s
      (writeResult (s.database.runQuery s.lastId (Filter.deletion table fields) fields.named))
      (s.database.runQuery s.lastId (Filter.deletion table fields) fields.named).database :=
  effect_noted (effect_query_ignored (Filter.deletion table fields) fields.named
    (note ((Filter.events table fields).map .event) s))

/-- Where a duplicate counts as success, only the result is another one. -/
theorem effect_toleratingDuplicate {operation : SessionM Unit} {s : Session}
    {r : Except SessionError Unit} {db : Database} (h : Effect operation s r db) :
    Effect (toleratingDuplicate operation) s (ignoringDuplicate r) db := by
  intro hs
  obtain ⟨rfl, rfl, hsaved⟩ := h hs
  have hattempt : (attempt operation).run.run s =
      (.ok (operation.run.run s).1, (operation.run.run s).2) := rfl
  rw [toleratingDuplicate, run_bind, hattempt]
  cases h : ignoringDuplicate (operation.run.run s).1 <;> simp only [h] <;> exact ⟨rfl, rfl, hsaved⟩

end Tablewright.Session
