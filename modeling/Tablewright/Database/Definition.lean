import Tablewright.Database.TableDefinition
import Tablewright.Sql.Failure

/-!
# Defining and dropping objects

What the definitions of a script do to a database. A definition names an object that must not be
there yet, or, with `IF NOT EXISTS`, may be; a removal names one that must be there, or, with
`IF EXISTS`, need not be. Tables and views share their names, and an index may not have the name
of either. Names that begin with `sqlite_` belong to the database.
-/

namespace Tablewright

open Sql

namespace Database

/-- Whether a name is kept for the database's own objects. -/
def isReservedName (name : String) : Bool :=
  Text.beginsWithName "sqlite_" name

/-- The schema in which an object is created. -/
def creationSchema? (name : ObjectName) (isTemporary : Bool) : Option SchemaKind :=
  match name.schema with
  | none => some (if isTemporary then .temporary else .main)
  | some q =>
    match schemaNamed? q with
    | some .main => if isTemporary then none else some .main
    | other => other

/-- A definition that makes sense. -/
def required {α : Type} : Option α → Except Failure α
  | some a => .ok a
  | none => .error .invalid

/-! ## Tables and views -/

/-- Where a new table or view goes: the schema, and whether its name is taken there already. -/
def relationPlace (db : Database) (name : ObjectName) (isTemporary : Bool) :
    Except Failure (SchemaKind × Bool) := do
  let kind ← required (creationSchema? name isTemporary)
  let schema := db.schema kind
  if isReservedName name.name || (schema.index? name.name).isSome then throw .invalid
  return (kind, schema.hasRelation name.name)

/-- A schema with a new table. The first table that is autoincremented brings the table of
counters with it. -/
def addTable (s : Schema) (t : StoredTable) : Schema :=
  s ++ .table t :: (if t.isAutoIncrement && !s.hasCounters then [.counters] else [])

/-- Define a table. -/
def createTable (db : Database) (d : TableDefinition) : Except Failure Database := do
  let (kind, isTaken) ← db.relationPlace d.name d.isTemporary
  if isTaken then
    if d.ifNotExists then return db
    throw .invalid
  let t ← required (StoredTable.ofDefinition? d)
  return db.setSchema kind (addTable (db.schema kind) t)

/-- Define a view. -/
def createView (db : Database) (name : ObjectName) (isTemporary ifNotExists : Bool) :
    Except Failure Database := do
  let (kind, isTaken) ← db.relationPlace name isTemporary
  if isTaken then
    if ifNotExists then return db
    throw .invalid
  return db.setSchema kind (db.schema kind ++ [.view name.name])

/-! ## Indexes -/

/-- Where a term of an index stands: it does not see the row id. -/
def indexPlace (t : StoredTable) : Place where
  scopes := [[{ t.nullFrame with rowid := none }]]
  table? := fun _ => none
  allowsQueries := false
  allowsParameters := false

/-- The column that a term of an index is, or that it is another expression that makes sense. -/
def indexTerm? (t : StoredTable) : Expr → Option (Option Nat)
  | .literal (.text s) => (t.position? s).map some
  | .collate e collation => if isCollation collation then indexTerm? t e else none
  | e =>
    match e.keyColumn?.bind t.position? with
    | some position => some (some position)
    | none => if e.resolves (indexPlace t) then some none else none

/-- Whether two lists of values are one key: they are the same and hold no NULL. -/
def collide (a b : List Value) : Bool :=
  !(a.any Value.isNull) && a.length == b.length && (a.zip b).all fun (x, y) => x.sameKey y

/-- Whether two of the rows have the same key. -/
def hasCollision (columns : List Nat) : List Row → Bool
  | [] => false
  | row :: rest =>
    (rest.any fun other =>
      collide (StoredTable.valuesAt row columns) (StoredTable.valuesAt other columns)) ||
        hasCollision columns rest

/-- Define an index. -/
def createIndex (db : Database) (d : IndexDefinition) : Except Failure Database := do
  let (kind, t) ← required (db.findTable? ⟨d.name.schema, d.table⟩)
  let schema := db.schema kind
  if isReservedName d.name.name || schema.hasRelation d.name.name then throw .invalid
  if (schema.index? d.name.name).isSome then
    if d.ifNotExists then return db
    throw .invalid
  let terms ← required (d.terms.mapM fun term => indexTerm? t term.expr)
  let columns := if terms.all Option.isSome then some (terms.filterMap id) else none
  if d.isUnique && columns.any fun c => hasCollision c t.rows then
    throw (.unique ((columns.getD []).map t.qualifiedName))
  return db.setSchema kind (schema ++ [.index ⟨d.name.name, t.name, d.isUnique, columns⟩])

/-! ## Triggers -/

/-- Define a trigger. Only a view has triggers that take the place of its events. -/
def createTrigger (db : Database) (d : TriggerDefinition) : Except Failure Database := do
  if d.isTemporary && d.name.schema.isSome then throw .invalid
  let relation := fun (s : Schema) => s.hasRelation d.table.name
  let named ← required (creationSchema? d.name d.isTemporary)
  let home ← required (db.locate? ⟨d.table.schema, d.table.name⟩ relation)
  let kind := if d.name.schema.isNone && home = .temporary then .temporary else named
  if kind = .main && home = .temporary then throw .invalid
  let schema := db.schema kind
  if isReservedName d.name.name then throw .invalid
  if (schema.trigger? d.name.name).isSome then
    if d.ifNotExists then return db
    throw .invalid
  let isOnView := (db.schema home).hasView d.table.name
  if isOnView != (d.time == .insteadOf) then throw .invalid
  return db.setSchema kind
    (schema ++ [.trigger ⟨d.name.name, d.table.name, d.time, d.event, d.condition, d.steps⟩])

/-! ## Removal -/

/-- The names of the tables that every database has. -/
def catalogNames : List String :=
  ["sqlite_master", "sqlite_schema", "sqlite_temp_master", "sqlite_temp_schema"]

/-- Whether a name is one of the database's own tables, which are not dropped. -/
def isInternal (db : Database) (name : String) : Bool :=
  let lower := Text.lowerAscii name
  catalogNames.contains lower ||
    (lower == "sqlite_sequence" && (db.main.hasCounters || db.temporary.hasCounters))

/-- The schema of an object that is to be dropped, none if it need not be there and is not. -/
def removalSchema? (db : Database) (name : ObjectName) (ifExists : Bool) (has : Schema → Bool) :
    Except Failure (Option SchemaKind) :=
  match db.locate? name has with
  | some kind => .ok (some kind)
  | none => if ifExists then .ok none else .error .invalid

/-- The table to drop, none if it need not be there and is not. -/
def tableToDrop? (db : Database) (name : ObjectName) (ifExists : Bool) :
    Except Failure (Option (SchemaKind × StoredTable)) := do
  if db.isInternal name.name then throw .invalid
  match ← db.removalSchema? name ifExists (·.hasRelation name.name) with
  | none => return none
  | some kind => return some (kind, ← required ((db.schema kind).table? name.name))

/-- A schema without the triggers on a table. -/
def removeTriggersOn (table : String) (s : Schema) : Schema :=
  s.filter fun o => match o with
    | .trigger t => !Text.sameName t.table table
    | _ => true

/-- A schema without a relation, its indexes and its triggers. -/
def removeRelation (relation : String) (s : Schema) : Schema :=
  (removeTriggersOn relation s).filter fun o => match o with
    | .index i => !Text.sameName i.table relation
    | o => !(o.relationName?.any fun n => Text.sameName n relation)

/-- A database without a table or view, its indexes and its triggers. -/
def dropRelation (db : Database) (kind : SchemaKind) (relation : String) : Database :=
  match kind with
  | .main => ⟨removeRelation relation db.main,
      if db.temporary.hasRelation relation then db.temporary
      else removeTriggersOn relation db.temporary⟩
  | .temporary => ⟨db.main, removeRelation relation db.temporary⟩

/-- Drop a view. -/
def dropView (db : Database) (name : ObjectName) (ifExists : Bool) : Except Failure Database := do
  if db.isInternal name.name then throw .invalid
  match ← db.removalSchema? name ifExists (·.hasRelation name.name) with
  | none => return db
  | some kind =>
    if (db.schema kind).hasView name.name then return db.dropRelation kind name.name
    throw .invalid

/-- Drop an index. -/
def dropIndex (db : Database) (name : ObjectName) (ifExists : Bool) : Except Failure Database := do
  match ← db.removalSchema? name ifExists fun s => (s.index? name.name).isSome with
  | none => return db
  | some kind =>
    return db.setSchema kind ((db.schema kind).filter fun o =>
      !(o.index?.any fun i => Text.sameName i.name name.name))

/-- Drop a trigger. -/
def dropTrigger (db : Database) (name : ObjectName) (ifExists : Bool) :
    Except Failure Database := do
  match ← db.removalSchema? name ifExists fun s => (s.trigger? name.name).isSome with
  | none => return db
  | some kind =>
    return db.setSchema kind ((db.schema kind).filter fun o =>
      !(o.trigger?.any fun t => Text.sameName t.name name.name))

end Database

end Tablewright
