import Tablewright.Database.Definition
import Tablewright.Database.Write

/-!
# Running a statement

`Database.run` runs one statement. It first makes sure that every name in it refers to something
(`prepare`), and then writes, deletes, selects, defines or drops. A statement that fails leaves
the database as it was; only a trigger that fails it keeps what was written before. At the end
of a statement no row may be an orphan.
-/

namespace Tablewright

open Sql

/-- What became of a statement. -/
structure Outcome where
  database : Database
  /-- The row id written last. -/
  lastId : Int
  /-- The rows it selected, or why it failed. -/
  result : Except Failure (List (List Value))

/-- Why a statement failed, if it did. -/
def Outcome.failure? (o : Outcome) : Option Failure :=
  match o.result with
  | .error e => some e
  | .ok _ => none

namespace Database

/-- The outcome of a statement that changed nothing. -/
def unchanged (db : Database) (lastId : Int) (result : Except Failure (List (List Value))) :
    Outcome :=
  ⟨db, lastId, result⟩

/-! ## Writes -/

/-- The columns that a write names, each as the position of a column or, for the row id,
nothing. -/
def writeTargets? (t : StoredTable) : Option (List String) → Option (List (Option Nat))
  | none => some ((List.range t.columns.length).map some)
  | some names => names.mapM fun n =>
    match t.position? n with
    | some i => some (some i)
    | none => if isRowidName n && !t.isWithoutRowid then some none else none

/-- Whether a write names the row id. -/
def namesRowid (t : StoredTable) (target : Option Nat) : Bool :=
  target.isNone || target == t.rowidColumn

/-- The row that a write supplies for its targets. -/
def newRow (t : StoredTable) (targets : List (Option Nat)) (values : List Value) : NewRow :=
  let supplied := targets.zip values
  ⟨t.columns.mapIdx fun i _ => (supplied.find? fun p => p.1 == some i).map (·.2),
    ((supplied.filter fun p => namesRowid t p.1).getLast?).map (·.2)⟩

/-- All triggers of an event. -/
def triggersFor (db : Database) (kind : SchemaKind) (table : String) (event : TriggerEvent) :
    List StoredTrigger :=
  (db.triggersOn kind table).filter fun t => t.event == event

/-- Whether rows of the table take part in a foreign key. -/
def hasForeignKeys (s : Schema) (t : StoredTable) : Bool :=
  !t.foreignKeys.isEmpty || !(referencesTo s t).isEmpty

/-- Whether a write tests its foreign keys at once: it writes one row, fires no trigger, and
deletes no other row. -/
def testsAtOnce (db : Database) (kind : SchemaKind) (t : StoredTable) (verb : WriteVerb)
    (targets : List (Option Nat)) (rows : Nat) : Bool :=
  let s := db.schema kind
  let mayDelete := verb = .replace && hasForeignKeys s t &&
    (targets.any (namesRowid t) || !(s.uniqueKeys t).isEmpty)
  rows == 1 && (db.triggersFor kind t.name .insert).isEmpty && !mayDelete

/-- Whether the triggers of an event make sense. -/
def triggersResolve (db : Database) (kind : SchemaKind) (t : StoredTable) (event : TriggerEvent)
    (tableAlias : String) : Bool :=
  (db.triggersFor kind t.name event).all
    (db.triggerResolves { t.nullFrame with tableAlias, isQualifiedOnly := true })

/-- A write that makes sense. -/
structure PreparedWrite where
  kind : SchemaKind
  table : StoredTable
  targets : List (Option Nat)
  atOnce : Bool

/-- Make sense of a write. -/
def prepareWrite (db : Database) (verb : WriteVerb) (name : ObjectName)
    (columns : Option (List String)) (rows : List (List Expr)) :
    Except Failure PreparedWrite := do
  let (kind, t) ← required (db.findTable? name)
  let targets ← required (writeTargets? t columns)
  let s := db.schema kind
  let atOnce := db.testsAtOnce kind t verb targets rows.length
  let isSound := rows.all (·.length = targets.length) &&
    rows.all (allResolve (db.place [])) && db.triggersResolve kind t .insert "new" &&
    findsParents s t && (atOnce || isSoundParent s t)
  if isSound then return ⟨kind, t, targets, atOnce⟩
  throw .invalid

/-- A schema in which a table has the given counter. -/
def restoreCounter (s : Schema) (table : String) (counter : Int) : Schema :=
  match s.table? table with
  | some t => s.setTable { t with counter }
  | none => s

/-- The outcome of a statement that has come to its end: no row may be an orphan. -/
def atEnd (db : Database) (kind : SchemaKind) (p : Progress)
    (result : Except Failure (List (List Value))) : Outcome :=
  if hasOrphans (p.database.schema kind) then ⟨db, p.lastId, .error .foreignKey⟩
  else ⟨p.database, p.lastId, result⟩

/-- Run a write. -/
def runWrite (db : Database) (lastId : Int) (parameter : String → Value) (verb : WriteVerb)
    (w : PreparedWrite) (rows : List (List Expr)) : Outcome :=
  match rows.mapM (evalAll (db.environment parameter [])) with
  | .error e => db.unchanged lastId (.error e)
  | .ok values =>
    let news := values.map (newRow w.table w.targets)
    match writeRows verb w.atOnce w.kind w.table.name news ⟨db, lastId⟩ with
    | (p, none) => db.atEnd w.kind p (.ok [])
    | (p, some (.raised .fail message)) =>
      let s := restoreCounter (p.database.schema w.kind) w.table.name w.table.counter
      db.atEnd w.kind { p with database := p.database.setSchema w.kind s }
        (.error (.raised .fail message))
    | (p, some e) => db.unchanged p.lastId (.error e)

/-! ## Deletions -/

/-- Make sense of a deletion. -/
def prepareDelete (db : Database) (name : ObjectName) (condition : Expr) :
    Except Failure (SchemaKind × StoredTable) := do
  let (kind, t) ← required (db.findTable? name)
  let s := db.schema kind
  if condition.resolves (db.place [[t.nullFrame]]) && db.triggersResolve kind t .delete "old" &&
      findsParents s t && isSoundParent s t then
    return (kind, t)
  throw .invalid

/-- Delete a row if it is still there. -/
def deleteRow (db : Database) (kind : SchemaKind) (table : String) (row : Row) :
    Except Failure Database := do
  match (db.schema kind).table? table with
  | none => throw .invalid
  | some t =>
    if !t.rows.contains row then return db
    let old := eventFrame "old" t row
    db.fireAll kind .before .delete old table
    let s ← deleteRows (db.schema kind) t (· == row)
    let db := db.setSchema kind s
    db.fireAll kind .after .delete old table
    return db

/-- Delete rows one after the other, and say how far it went. -/
def deleteEach (kind : SchemaKind) (table : String) :
    List Row → Progress → Progress × Option Failure
  | [], p => (p, none)
  | row :: rest, p =>
    match p.database.deleteRow kind table row with
    | .ok db => deleteEach kind table rest { p with database := db }
    | .error (.raised .ignore _) => deleteEach kind table rest p
    | .error e => (p, some e)

/-- Run a deletion. -/
def runDelete (db : Database) (lastId : Int) (parameter : String → Value) (kind : SchemaKind)
    (t : StoredTable) (condition : Expr) : Outcome :=
  let chosen := t.rows.filterM fun row => do
    return (← condition.eval (db.environment parameter [[t.frame row]])).holds
  match chosen with
  | .error e => db.unchanged lastId (.error e)
  | .ok rows =>
    match deleteEach kind t.name rows ⟨db, lastId⟩ with
    | (p, none) => db.atEnd kind p (.ok [])
    | (p, some (.raised .fail message)) => db.atEnd kind p (.error (.raised .fail message))
    | (_, some e) => db.unchanged lastId (.error e)

/-! ## Dropped tables -/

/-- Drop a table. Its rows are deleted first if others may refer to them. -/
def dropTable (db : Database) (name : ObjectName) (ifExists : Bool) : Except Failure Database := do
  match ← db.tableToDrop? name ifExists with
  | none => return db
  | some (kind, t) =>
    let s := db.schema kind
    if (referencesTo s t).isEmpty then return db.dropRelation kind t.name
    let emptied ← deleteRows s t fun _ => true
    if hasOrphans emptied then throw .foreignKey
    return (db.setSchema kind emptied).dropRelation kind t.name

/-! ## Statements -/

/-- The parameters of a statement. -/
def statementParameters : Statement → List String
  | .write _ _ _ rows => rows.flatMap allParameters
  | .delete _ condition => condition.parameters
  | .query q => q.parameters
  | _ => []

/-- Make sense of a statement that works on rows. -/
def prepare (db : Database) : Statement → Except Failure Unit
  | .write verb name columns rows => do let _ ← db.prepareWrite verb name columns rows
  | .delete name condition => do let _ ← db.prepareDelete name condition
  | .query q => if q.resolves (db.place []) then .ok () else .error .invalid
  | _ => .ok ()

/-- The database that a definition or removal makes. -/
def define (db : Database) : Statement → Except Failure Database
  | .createTable d => db.createTable d
  | .createIndex d => db.createIndex d
  | .createView name isTemporary ifNotExists => db.createView name isTemporary ifNotExists
  | .createTrigger d => db.createTrigger d
  | .drop .table name ifExists => db.dropTable name ifExists
  | .drop .index name ifExists => db.dropIndex name ifExists
  | .drop .view name ifExists => db.dropView name ifExists
  | .drop .trigger name ifExists => db.dropTrigger name ifExists
  | _ => .ok db

/-- Run a statement. -/
def run (db : Database) (lastId : Int) (parameter : String → Value) (s : Statement) : Outcome :=
  match s with
  | .write verb name columns rows =>
    match db.prepareWrite verb name columns rows with
    | .ok w => db.runWrite lastId parameter verb w rows
    | .error e => db.unchanged lastId (.error e)
  | .delete name condition =>
    match db.prepareDelete name condition with
    | .ok (kind, t) => db.runDelete lastId parameter kind t condition
    | .error e => db.unchanged lastId (.error e)
  | .query q =>
    if q.resolves (db.place []) then
      db.unchanged lastId (q.eval (db.environment parameter []))
    else db.unchanged lastId (.error .invalid)
  | definition =>
    match db.define definition with
    | .ok db => db.unchanged lastId (.ok [])
    | .error e => db.unchanged lastId (.error e)

end Database

end Tablewright
