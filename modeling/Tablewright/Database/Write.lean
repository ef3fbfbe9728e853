import Tablewright.Database.ForeignKeys
import Tablewright.Sql.Eval

/-!
# Writing rows

One row of a write goes through these steps, and the first one that fails decides: triggers that
fire before, the row id, columns that are NOT NULL, conditions, the row id being taken, the
unique keys, triggers that fire after. A replacing write deletes the rows whose keys it takes,
and fills a NULL that is not allowed with the default value of its column.
-/

namespace Tablewright

open Sql

namespace Database

/-! ## What expressions see -/

/-- What expressions of a statement see. -/
def environment (db : Database) (parameter : String → Value) (scopes : Scopes) : Environment where
  scopes := scopes
  table? := fun name => (db.table? name).map fun t => (t.rows.map t.frame, t.nullFrame)
  parameter := parameter

/-- Where expressions of a statement stand. -/
def place (db : Database) (scopes : Scopes) : Place where
  scopes := scopes
  table? := fun name => (db.table? name).map (·.nullFrame)
  allowsQueries := true
  allowsParameters := true

/-- No parameter. -/
def unbound : String → Value :=
  fun _ => .null

/-! ## Triggers -/

/-- The row of an event under the name by which its triggers see it. -/
def eventFrame (tableAlias : String) (t : StoredTable) (row : Row) : Frame :=
  { t.frame row with tableAlias, isQualifiedOnly := true }

/-- Run a step of a trigger; one that writes is refused. -/
def runStep (env : Environment) : TriggerStep → Except Failure Unit
  | .query q => do let _ ← q.eval env
  | .other => .error .invalid

/-- Fire a trigger if its condition holds. -/
def fire (env : Environment) (t : StoredTrigger) : Except Failure Unit := do
  if (← t.condition.eval env).holds then t.steps.forM (runStep env)

/-- The triggers of an event on a table. -/
def eventTriggers (db : Database) (kind : SchemaKind) (table : String) (time : TriggerTime)
    (event : TriggerEvent) : List StoredTrigger :=
  (db.triggersOn kind table).filter fun t => t.time == time && t.event == event

/-- Fire the triggers of an event, given the row they see. -/
def fireAll (db : Database) (kind : SchemaKind) (time : TriggerTime) (event : TriggerEvent)
    (row : Frame) (table : String) : Except Failure Unit :=
  (db.eventTriggers kind table time event).forM (fire (db.environment unbound [[row]]))

/-- Whether a trigger makes sense for the row it sees, and has no step that writes. -/
def triggerResolves (db : Database) (row : Frame) (t : StoredTrigger) : Bool :=
  let p := db.place [[row]]
  t.condition.resolves p && t.steps.all fun
    | .query q => q.resolves p
    | .other => false

/-! ## Values -/

/-- What a statement supplies for a row: the values of some columns, and the row id, if it names
either. -/
structure NewRow where
  values : List (Option Value)
  id : Option Value
  deriving DecidableEq, Repr

/-- The value that a column takes if none is supplied. -/
def defaultOf (c : StoredColumn) : Except Failure Value :=
  match c.defaultValue with
  | some e => e.eval (empty.environment unbound [])
  | none => .ok .null

/-- The values of a row, each as its column stores it. -/
def storedValues (t : StoredTable) (values : List (Option Value)) : Except Failure (List Value) :=
  (t.columns.zip values).mapM fun (c, v) => do
    let v ← match v with
      | some v => pure v
      | none => defaultOf c
    return c.affinity.convert v

/-- Values with the row id in the column that holds it. -/
def withRowid (t : StoredTable) (id : Value) (values : List Value) : List Value :=
  match t.rowidColumn with
  | some i => values.set i id
  | none => values

/-- The row id that a row asks for, none if it takes the next one. -/
def requestedId (r : NewRow) : Except Failure (Option Int) :=
  match r.id with
  | none => .ok none
  | some v =>
    match Affinity.integer.convert v with
    | .null => .ok none
    | .integer n => .ok (some n)
    | _ => .error .mismatch

/-- The greatest row id there is. -/
def greatestId? (t : StoredTable) : Option Int :=
  (t.rows.map (·.id)).max?

/-- The next row id: one more than the greatest there is, or, in an autoincrement table, than the
greatest there ever was. There is none past `maxInteger`; lower ids that are free are not looked for,
whether the table is autoincremented or not. -/
def nextId (t : StoredTable) : Except Failure Int :=
  let next := ((greatestId? t).map (· + 1)).getD 1
  let id := if t.isAutoIncrement then max next (t.counter + 1) else next
  if id ≤ maxInteger then .ok id else .error .full

/-! ## Constraints -/

/-- A value for a column that does not take NULL: in a replacing write, NULL gives way to the
default value. -/
def fillNull (verb : WriteVerb) (t : StoredTable) (c : StoredColumn) (v : Value) :
    Except Failure Value :=
  if !(c.isNotNull && v.isNull) then .ok v
  else
    match verb, c.defaultValue with
    | .replace, some e => do return c.affinity.convert (← e.eval (empty.environment unbound []))
    | _, _ => .error (.notNull t.name c.name)

/-- Whether a position is that of the row id. -/
def isRowidPosition (t : StoredTable) (i : Nat) : Bool :=
  t.rowidColumn == some i

/-- The values of a row, none of them NULL where that is not allowed. -/
def fillNulls (verb : WriteVerb) (t : StoredTable) (values : List Value) :
    Except Failure (List Value) := do
  let filled ← ((t.columns.zip values).mapIdx fun i cv => (i, cv)).mapM fun (i, c, v) =>
    if isRowidPosition t i then pure v else fillNull verb t c v
  match ((t.columns.zip filled).mapIdx fun i cv => (i, cv)).find? fun (i, c, v) =>
      !isRowidPosition t i && c.isNotNull && v.isNull with
  | some (_, c, _) => throw (.notNull t.name c.name)
  | none => return filled

/-- Test the conditions on a row; one that is NULL is met. -/
def checkConditions (t : StoredTable) (row : Row) : Except Failure Unit :=
  let env := empty.environment unbound [[t.frame row]]
  t.checks.forM fun (e, label) => do
    if (← e.eval env).truth = some false then throw (.check label)

/-- What is reported for a row id that is taken. -/
def rowidTaken (t : StoredTable) : Failure :=
  match t.rowidColumn with
  | some i => .primaryKey [t.qualifiedName i]
  | none => .rowid t.name

/-- What is reported for a key that is taken. -/
def keyTaken (t : StoredTable) (k : Key) : Failure :=
  let columns := k.columns.map t.qualifiedName
  if k.isPrimary then .primaryKey columns else .unique columns

/-- Whether a row takes the key of another. -/
def takesKey (k : Key) (row other : Row) : Bool :=
  let key := StoredTable.valuesAt row k.columns
  !(key.any Value.isNull) &&
    (key.zip (StoredTable.valuesAt other k.columns)).all fun (x, y) => x.sameKey y

/-- A schema without some rows of a table, the orphans they leave settled. -/
def deleteRows (s : Schema) (t : StoredTable) (gone : Row → Bool) : Except Failure Schema :=
  settle s (s.setTable { t with rows := t.rows.filter fun row => !gone row })

/-- Make a key free for a row: a replacing write deletes the rows that have it, any other
fails. -/
def freeKey (verb : WriteVerb) (s : Schema) (table : String) (taken : StoredTable → Failure)
    (collides : Row → Bool) : Except Failure Schema := do
  match s.table? table with
  | none => throw .invalid
  | some t =>
    if !(t.rows.any collides) then return s
    match verb with
    | .insert => throw (taken t)
    | .replace => deleteRows s t collides

/-- Make all keys of a row free. -/
def freeKeys (verb : WriteVerb) (s : Schema) (t : StoredTable) (row : Row) :
    Except Failure Schema := do
  let s ←
    if t.isWithoutRowid then pure s
    else freeKey verb s t.name rowidTaken fun other => other.id == row.id
  (s.uniqueKeys t).foldlM
    (fun s k => freeKey verb s t.name (keyTaken · k) fun other => takesKey k row other) s

/-! ## Rows -/

/-- Put a row into its place in the order of row ids. -/
def insertInOrder (row : Row) : List Row → List Row
  | [] => [row]
  | other :: rest =>
    if row.id < other.id then row :: other :: rest else other :: insertInOrder row rest

/-- A table with a new row, its id counted. -/
def addRow (t : StoredTable) (row : Row) : StoredTable :=
  { t with
    rows := insertInOrder row t.rows
    counter := if t.isAutoIncrement then max t.counter row.id else t.counter }

/-- A schema with a new row in a table. -/
def addRowTo (s : Schema) (table : String) (row : Row) : Except Failure Schema :=
  match s.table? table with
  | some t => .ok (s.setTable (addRow t row))
  | none => .error .invalid

/-- The row that triggers before a write see: the next row id is not known to them. -/
def rowBefore (t : StoredTable) (id : Option Int) (values : List Value) : Row :=
  let id := id.getD (-1)
  ⟨id, withRowid t (.integer id) values⟩

/-- Write a row. With `atOnce`, a row that refers to none fails before it is written. -/
def writeRow (verb : WriteVerb) (atOnce : Bool) (db : Database) (kind : SchemaKind)
    (t : StoredTable) (r : NewRow) : Except Failure (Database × Int) := do
  let supplied ← storedValues t r.values
  let before := db.eventTriggers kind t.name .before .insert
  if !before.isEmpty then
    let row := rowBefore t (← requestedId r) supplied
    db.fireAll kind .before .insert (eventFrame "new" t row) t.name
  let id ← match ← requestedId r with
    | some id => pure id
    | none => nextId t
  let values ← fillNulls verb t (withRowid t (.integer id) supplied)
  let row : Row := ⟨id, values⟩
  checkConditions t row
  let s ← freeKeys verb (db.schema kind) t row
  let written ← addRowTo s t.name row
  if atOnce && isOrphanOf written t row then throw .foreignKey
  let db := db.setSchema kind written
  db.fireAll kind .after .insert (eventFrame "new" t row) t.name
  return (db, id)

/-- How far a write has come: the database, and the row id written last. -/
structure Progress where
  database : Database
  lastId : Int

/-- Write rows one after the other, and say how far it went. A row that a trigger ignores is left
out. -/
def writeRows (verb : WriteVerb) (atOnce : Bool) (kind : SchemaKind) (table : String) :
    List NewRow → Progress → Progress × Option Failure
  | [], p => (p, none)
  | r :: rest, p =>
    match (p.database.schema kind).table? table with
    | none => (p, some .invalid)
    | some t =>
      match writeRow verb atOnce p.database kind t r with
      | .ok (db, id) =>
        writeRows verb atOnce kind table rest ⟨db, if t.isWithoutRowid then p.lastId else id⟩
      | .error (.raised .ignore _) => writeRows verb atOnce kind table rest p
      | .error e => (p, some e)

end Database

end Tablewright
