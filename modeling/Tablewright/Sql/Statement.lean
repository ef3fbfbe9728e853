import Tablewright.Sql.Equality
import Tablewright.Statement.Batch

/-!
# Statements

The statements of a script: definitions of tables, indexes, views and triggers and their
removal, writes, deletions and queries.
-/

namespace Tablewright.Sql

/-- The name of an object, perhaps qualified by its schema. -/
structure ObjectName where
  schema : Option String
  name : String
  deriving DecidableEq, Repr

/-- What becomes of the rows that refer to a deleted row. -/
inductive ReferenceAction
  /-- The deletion is refused at the end of the statement. -/
  | refuse
  /-- The deletion is refused at once. -/
  | restrict
  | setNull
  | setDefault
  | cascade
  deriving DecidableEq, Repr

/-- The target of a foreign key. -/
structure Reference where
  table : String
  /-- The columns referred to, none for the primary key. -/
  columns : List String
  onDelete : ReferenceAction
  deriving DecidableEq, Repr

/-- A term of a key. -/
structure KeyTerm where
  expr : Expr
  descending : Bool
  deriving DecidableEq

/-- A constraint on a column. -/
inductive ColumnConstraint
  | notNull
  | primaryKey (descending autoIncrement : Bool)
  | unique
  | default (value : Expr)
  /-- A condition, and the label under which its violation is reported. -/
  | check (condition : Expr) (label : String)
  | references (target : Reference)
  | collate (collation : String)
  /-- A constraint without effect here. -/
  | inert
  deriving DecidableEq

/-- A column of a table definition. -/
structure ColumnDefinition where
  name : String
  /-- The type, as it is reported for the column. -/
  declaredType : String
  constraints : List ColumnConstraint
  deriving DecidableEq

/-- A constraint on a table. -/
inductive TableConstraint
  | primaryKey (terms : List KeyTerm) (autoIncrement : Bool)
  | unique (terms : List KeyTerm)
  | check (condition : Expr) (label : String)
  | foreignKey (columns : List String) (target : Reference)
  | inert
  deriving DecidableEq

/-- A table definition. -/
structure TableDefinition where
  name : ObjectName
  isTemporary : Bool
  ifNotExists : Bool
  columns : List ColumnDefinition
  constraints : List TableConstraint
  withoutRowid : Bool
  /-- The source, from the name of the table to the end of the definition. -/
  source : String
  deriving DecidableEq

/-- An index definition. -/
structure IndexDefinition where
  name : ObjectName
  isUnique : Bool
  ifNotExists : Bool
  table : String
  terms : List KeyTerm
  deriving DecidableEq

/-- The event that fires a trigger. -/
inductive TriggerEvent
  | insert
  | delete
  | update
  deriving DecidableEq, Repr

/-- When a trigger fires. -/
inductive TriggerTime
  | before
  | after
  | insteadOf
  deriving DecidableEq, Repr

/-- A step of a trigger. -/
inductive TriggerStep
  | query (q : Query)
  /-- A write, which is read but never run: what would fire such a trigger is refused. -/
  | other
  deriving DecidableEq

/-- A trigger definition. -/
structure TriggerDefinition where
  name : ObjectName
  isTemporary : Bool
  ifNotExists : Bool
  time : TriggerTime
  event : TriggerEvent
  table : ObjectName
  condition : Expr
  steps : List TriggerStep
  deriving DecidableEq

/-- The kinds of objects that are dropped. -/
inductive ObjectKind
  | table
  | index
  | view
  | trigger
  deriving DecidableEq, Repr

/-- A statement. -/
inductive Statement
  | createTable (definition : TableDefinition)
  | createIndex (definition : IndexDefinition)
  | createView (name : ObjectName) (isTemporary ifNotExists : Bool)
  | createTrigger (definition : TriggerDefinition)
  | drop (kind : ObjectKind) (name : ObjectName) (ifExists : Bool)
  /-- Write rows; without a list of columns, a row has all of them. -/
  | write (verb : WriteVerb) (table : ObjectName) (columns : Option (List String))
      (rows : List (List Expr))
  | delete (table : ObjectName) (condition : Expr)
  | query (q : Query)
  deriving DecidableEq

end Tablewright.Sql
