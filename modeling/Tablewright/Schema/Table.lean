import Tablewright.Schema.Affinity

/-!
# Tables and columns

The model that is extracted from a schema script and that code is generated from: tables with
their columns, in the order of the script.
-/

namespace Tablewright

/-- A column of a table. -/
structure Column where
  /-- The name, as the schema writes it. -/
  name : String
  /-- The declared storage class. -/
  affinity : Affinity
  /-- Part of the primary key of its table. -/
  isPrimaryKey : Bool
  /-- Declared AUTOINCREMENT. -/
  isAutoIncrement : Bool
  /-- Accepts NULL. -/
  isNullable : Bool
  deriving DecidableEq, Repr

/-- A column from its constraints: it accepts NULL unless it is declared NOT NULL or belongs to
the primary key. -/
def Column.declare (name : String) (affinity : Affinity)
    (notNull primaryKey autoIncrement : Bool) : Column :=
  ⟨name, affinity, primaryKey, autoIncrement, !(notNull || primaryKey)⟩

/-- A table and its columns. -/
structure Table where
  name : String
  columns : List Column
  deriving DecidableEq, Repr

namespace Table

/-- The columns a caller supplies for a new row: all but the autoincrement key. -/
def insertableColumns (t : Table) : List Column :=
  t.columns.filter fun c => !c.isAutoIncrement

/-- The name of a column qualified by its table. -/
def qualified (t : Table) (c : Column) : String :=
  t.name ++ "." ++ c.name

end Table

end Tablewright
