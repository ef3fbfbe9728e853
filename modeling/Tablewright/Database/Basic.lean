import Tablewright.Sql.Conversion
import Tablewright.Sql.Frame
import Tablewright.Sql.Statement

/-!
# Databases

A database has two schemas, the main one and the one of temporary objects. A schema is the list
of its objects in the order of their creation: tables with their rows, indexes, views and
triggers. Names of objects compare without ASCII case, and an unqualified table name means the
temporary table if there is one.
-/

namespace Tablewright

open Sql

/-! ## Tables -/

/-- A column of a stored table. -/
structure StoredColumn where
  name : String
  /-- The declared type, as it is reported. -/
  declaredType : String
  affinity : Affinity
  isNotNull : Bool
  defaultValue : Option Expr
  deriving DecidableEq

/-- A unique key: positions of columns. -/
structure Key where
  columns : List Nat
  isPrimary : Bool
  deriving DecidableEq, Repr

/-- A foreign key: positions of columns, and what they refer to. -/
structure ForeignKey where
  columns : List Nat
  target : Reference
  deriving DecidableEq, Repr

/-- A row with its row id. -/
structure Row where
  id : Int
  values : List Value
  deriving DecidableEq, Repr

/-- A table: its definition and its rows, in the order of their ids. -/
structure StoredTable where
  name : String
  columns : List StoredColumn
  /-- The positions of the primary key. -/
  primaryKey : List Nat
  /-- The position of the column that holds the row id. -/
  rowidColumn : Option Nat
  isAutoIncrement : Bool
  isWithoutRowid : Bool
  /-- The conditions on a row, with their labels. -/
  checks : List (Expr × String)
  /-- The unique keys besides the row id, in the order of their definition. -/
  keys : List Key
  foreignKeys : List ForeignKey
  /-- The source of the definition, from the name on. -/
  source : String
  rows : List Row
  /-- The greatest row id that an autoincrement table ever held, at least zero. -/
  counter : Int
  deriving DecidableEq

namespace StoredTable

/-- The position of a column. -/
def position? (t : StoredTable) (column : String) : Option Nat :=
  t.columns.findIdx? fun c => Text.sameName c.name column

/-- The row as a frame under the name of the table. -/
def frame (t : StoredTable) (row : Row) : Frame where
  tableAlias := t.name
  columns := t.columns.map fun c => (c.name, c.affinity)
  values := row.values
  rowid := if t.isWithoutRowid then none else some (.integer row.id)
  isQualifiedOnly := false

/-- The frame of a row of NULLs. -/
def nullFrame (t : StoredTable) : Frame where
  tableAlias := t.name
  columns := t.columns.map fun c => (c.name, c.affinity)
  values := t.columns.map fun _ => .null
  rowid := if t.isWithoutRowid then none else some .null
  isQualifiedOnly := false

/-- The values of a row at some positions. -/
def valuesAt (row : Row) (positions : List Nat) : List Value :=
  positions.map fun i => row.values.getD i .null

/-- A column's name, qualified by its table. -/
def qualifiedName (t : StoredTable) (position : Nat) : String :=
  t.name ++ "." ++ ((t.columns[position]?).map (·.name)).getD ""

end StoredTable

/-! ## Objects -/

/-- An index: the positions of its columns, unless it has other terms. -/
structure StoredIndex where
  name : String
  table : String
  isUnique : Bool
  columns : Option (List Nat)
  deriving DecidableEq, Repr

/-- A trigger on a table. -/
structure StoredTrigger where
  name : String
  table : String
  time : TriggerTime
  event : TriggerEvent
  condition : Expr
  steps : List TriggerStep
  deriving DecidableEq

/-- An object of a schema. -/
inductive DatabaseObject
  | table (t : StoredTable)
  /-- The database's own table of the counters of autoincrement tables. -/
  | counters
  | index (i : StoredIndex)
  | view (name : String)
  | trigger (t : StoredTrigger)
  deriving DecidableEq

namespace DatabaseObject

/-- The table that an object is. -/
def table? : DatabaseObject → Option StoredTable
  | table t => some t
  | _ => none

/-- The index that an object is. -/
def index? : DatabaseObject → Option StoredIndex
  | index i => some i
  | _ => none

/-- The trigger that an object is. -/
def trigger? : DatabaseObject → Option StoredTrigger
  | trigger t => some t
  | _ => none

/-- The name of a table or a view. -/
def relationName? : DatabaseObject → Option String
  | table t => some t.name
  | view name => some name
  | _ => none

end DatabaseObject

/-- A schema: its objects in the order of their creation. -/
abbrev Schema := List DatabaseObject

namespace Schema

/-- The tables. -/
def tables (s : Schema) : List StoredTable :=
  s.filterMap (·.table?)

/-- The table of the given name. -/
def table? (s : Schema) (name : String) : Option StoredTable :=
  s.tables.find? fun t => Text.sameName t.name name

/-- The index of the given name. -/
def index? (s : Schema) (name : String) : Option StoredIndex :=
  (s.filterMap (·.index?)).find? fun i => Text.sameName i.name name

/-- The trigger of the given name. -/
def trigger? (s : Schema) (name : String) : Option StoredTrigger :=
  (s.filterMap (·.trigger?)).find? fun t => Text.sameName t.name name

/-- Whether there is a view of the given name. -/
def hasView (s : Schema) (name : String) : Bool :=
  s.any fun o => match o with
    | .view n => Text.sameName n name
    | _ => false

/-- Whether there is a table or a view of the given name. -/
def hasRelation (s : Schema) (name : String) : Bool :=
  (s.filterMap (·.relationName?)).any fun n => Text.sameName n name

/-- Whether the database's own table of counters is there. -/
def hasCounters (s : Schema) : Bool :=
  s.any (· matches .counters)

/-- Put a table in place of the one that has its name. -/
def setTable (s : Schema) (t : StoredTable) : Schema :=
  s.map fun o => match o with
    | .table old => if Text.sameName old.name t.name then .table t else .table old
    | o => o

/-- The unique keys of a table, the last defined first. -/
def uniqueKeys (s : Schema) (t : StoredTable) : List Key :=
  let indexes := (s.filterMap (·.index?)).filter fun i => i.isUnique && Text.sameName i.table t.name
  let indexKeys := indexes.filterMap fun i => i.columns.map fun columns => ⟨columns, false⟩
  (t.keys ++ indexKeys).reverse

end Schema

/-! ## Databases -/

/-- Which of the two schemas. -/
inductive SchemaKind
  | main
  | temporary
  deriving DecidableEq, Repr

/-- A database. -/
structure Database where
  main : Schema
  temporary : Schema
  deriving DecidableEq

namespace Database

/-- Nothing stored. -/
def empty : Database :=
  ⟨[], []⟩

/-- One of the schemas. -/
def schema (db : Database) : SchemaKind → Schema
  | .main => db.main
  | .temporary => db.temporary

/-- Put a schema in place. -/
def setSchema (db : Database) (kind : SchemaKind) (s : Schema) : Database :=
  match kind with
  | .main => { db with main := s }
  | .temporary => { db with temporary := s }

/-- The schema that a qualifier names. -/
def schemaNamed? (qualifier : String) : Option SchemaKind :=
  if Text.sameName qualifier "main" then some .main
  else if Text.sameName qualifier "temp" then some .temporary
  else none

/-- The schemas in which a name is looked up, in order. -/
def searchOrder (qualifier : Option String) : List SchemaKind :=
  match qualifier with
  | none => [.temporary, .main]
  | some q => (schemaNamed? q).toList

/-- The schema that has something for a name, where it is first found. -/
def locate? (db : Database) (name : ObjectName) (has : Schema → Bool) : Option SchemaKind :=
  (searchOrder name.schema).find? fun kind => has (db.schema kind)

/-- A table and its schema. -/
def findTable? (db : Database) (name : ObjectName) : Option (SchemaKind × StoredTable) := do
  let kind ← db.locate? name (·.hasRelation name.name)
  return (kind, ← (db.schema kind).table? name.name)

/-- The table that an unqualified name means. -/
def table? (db : Database) (name : String) : Option StoredTable :=
  (db.findTable? ⟨none, name⟩).map (·.2)

/-- Put a table in place of the one that has its name. -/
def setTable (db : Database) (kind : SchemaKind) (t : StoredTable) : Database :=
  db.setSchema kind ((db.schema kind).setTable t)

/-- The triggers on a table of a schema. -/
def triggersOn (db : Database) (kind : SchemaKind) (table : String) : List StoredTrigger :=
  let schemas := if kind = .temporary then db.temporary else db.temporary ++ db.main
  (schemas.filterMap (·.trigger?)).filter fun t => Text.sameName t.table table

end Database

end Tablewright
