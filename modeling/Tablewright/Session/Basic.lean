import Tablewright.Database.Script
import Tablewright.Session.Error
import Tablewright.Statement.Description
import Tablewright.Statement.Filter

/-!
# Sessions

A session is a database in use: it runs scripts and statements, one after the other or together
in a transaction, and keeps a journal of them. A transaction that fails puts the database back
to what it was when it began; there is no transaction within a transaction. Some failures of a
statement end the transaction on their own (`Failure.endsTransaction`), and then there is nothing
left to commit.
-/

namespace Tablewright

open Sql

/-- What a session has noted. -/
inductive JournalEntry
  /-- A statement that was about to run, and its parameters, none for a script. -/
  | statement (text : String) (parameters : Option Parameters)
  | event (e : Event)
  deriving DecidableEq

/-- A database in use. -/
structure Session where
  database : Database
  /-- The row id written last. -/
  lastId : Int
  /-- What the database was when the transaction began, in a transaction. -/
  saved : Option Database
  /-- What happened, the first first. -/
  journal : List JournalEntry
  deriving DecidableEq

/-- An operation on a session. -/
abbrev SessionM := ExceptT SessionError (StateM Session)

namespace Session

/-- A session on a database. -/
def start (db : Database) : Session :=
  ⟨db, 0, none, []⟩

/-- Note something. -/
def note (entries : List JournalEntry) (s : Session) : Session :=
  { s with journal := s.journal ++ entries }

/-- A session after a failure, if there is one. -/
def result {α : Type} (r : Except Failure α) : Except SessionError α :=
  r.mapError .database

/-! ## The ends of a transaction -/

/-- Begin a transaction, unless there is one. -/
def begin? (s : Session) : Option Session :=
  match s.saved with
  | some _ => none
  | none => some { s with saved := some s.database }

/-- End a transaction and keep what it did, if there still is one. -/
def commit? (s : Session) : Except SessionError Session :=
  match s.saved with
  | some _ => .ok { s with saved := none }
  | none => .error (.database .invalid)

/-- End a transaction and put the database back to what it was. -/
def rollback (s : Session) : Session :=
  { s with database := s.saved.getD s.database, saved := none }

/-- A session after a statement: the failure of one may end the transaction. -/
def afterFailure (failure : Option Failure) (s : Session) : Session :=
  if failure.any Failure.endsTransaction then rollback s else s

/-! ## Scripts and statements -/

/-- Run a script. -/
def runScript (script : String) (s : Session) : Except SessionError Unit × Session :=
  let outcome := s.database.runScript s.lastId script
  let s := note [.statement script none] s
  let s := { s with database := outcome.database, lastId := outcome.lastId }
  match outcome.failure with
  | some e => (.error (.database e), afterFailure (some e) s)
  | none => (.ok (), s)

/-- Run a statement with parameters. -/
def runQuery (text : String) (parameters : Parameters) (s : Session) :
    Except SessionError (List (List Value)) × Session :=
  let outcome := s.database.runQuery s.lastId text parameters
  let s := note [.statement text (some parameters)] s
  let s := { s with database := outcome.database, lastId := outcome.lastId }
  (result outcome.result, afterFailure outcome.failure? s)

/-- Run a script. -/
def execute (script : String) : SessionM Unit :=
  fun s => runScript script s

/-- Run a statement with parameters and answer the rows it selects. -/
def query (text : String) (parameters : Parameters) : SessionM (List (List Value)) :=
  fun s => runQuery text parameters s

/-- Write all rows of a batch. -/
def write (verb : WriteVerb) (table : String) (columns : List String) (rows : List Fields) :
    SessionM Unit := do
  match Batch.statement verb table columns rows with
  | .error e => throw (.batch e)
  | .ok (text, parameters) =>
    let _ ← query text parameters

/-- Delete the rows of a table that match every field. -/
def delete (table : String) (fields : Fields) : SessionM Unit := do
  modify (note ((Filter.events table fields).map .event))
  let _ ← query (Filter.deletion table fields) fields.named

/-- The result of an operation as a value. -/
def attempt {α : Type} (operation : SessionM α) : SessionM (Except SessionError α) :=
  fun s =>
    let (r, s) := operation.run.run s
    (.ok r, s)

/-- An operation for which a duplicate counts as success. -/
def toleratingDuplicate (operation : SessionM Unit) : SessionM Unit := do
  match ignoringDuplicate (← attempt operation) with
  | .error e => throw e
  | .ok () => return ()

/-! ## Transactions -/

/-- Run an operation in a transaction, and end that in the given way when the operation is done. -/
def transactionBy {m : Type → Type} [Monad m] [MonadStateOf Session m]
    [MonadExceptOf SessionError m] {α : Type} (finish : Session → Except SessionError Session)
    (body : m α) : m α := do
  match begin? (← getThe Session) with
  | none => throw (.database .invalid)
  | some s =>
    set s
    try
      let a ← body
      set (← MonadExcept.ofExcept (finish (← getThe Session)))
      pure a
    catch e =>
      modifyThe Session rollback
      throw e

/-- Run an operation in a transaction. -/
def transaction {m : Type → Type} [Monad m] [MonadStateOf Session m]
    [MonadExceptOf SessionError m] {α : Type} (body : m α) : m α :=
  transactionBy commit? body

/-! ## The journal -/

/-- The event of a statement; scripts and statements that define tables have none. -/
def statementEvent? (text : String) (parameters : Option Parameters) : Option Event :=
  if Text.contains text "CREATE TABLE" then none
  else
    let bound :=
      match parameters with
      | some (p :: ps) => [("params", Parameters.describe (p :: ps))]
      | _ => []
    some ⟨.debug, "query", ("sql", text) :: bound⟩

/-- The events in a journal, those of statements only with `withStatements`. -/
def eventsOf (withStatements : Bool) (entries : List JournalEntry) : List Event :=
  entries.filterMap fun
    | .statement text parameters => if withStatements then statementEvent? text parameters else none
    | .event e => some e

/-- The statements in a journal. -/
def statementsOf (entries : List JournalEntry) : List (String × Option Parameters) :=
  entries.filterMap fun
    | .statement text parameters => some (text, parameters)
    | .event _ => none

end Session

end Tablewright
