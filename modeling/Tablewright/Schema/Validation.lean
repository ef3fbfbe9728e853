import Tablewright.Schema.Table

/-!
# Sound schemas

What a list of tables has to satisfy before code is generated from it: no two tables of one
name, no table without columns, no two columns of one name in a table, and AUTOINCREMENT on
INTEGER primary keys only. `firstProblem?` reads the tables in order and stops at the first
fault: a repeated table name comes before the content of that table, and in a column a repeated
name comes before a misplaced AUTOINCREMENT.
-/

namespace Tablewright

/-- What is wrong with a list of tables. -/
inductive SchemaProblem
  /-- Two tables share a name. -/
  | duplicateTable (table : String)
  /-- Two columns of a table share a name. -/
  | duplicateColumn (table column : String)
  /-- A table has no columns. -/
  | emptyTable (table : String)
  /-- AUTOINCREMENT on a column that is no INTEGER primary key. -/
  | invalidAutoIncrement (table column : String)
  deriving DecidableEq, Repr

/-- The diagnostic for a problem. -/
def SchemaProblem.message : SchemaProblem → String
  | duplicateTable t => "duplicate table: " ++ t
  | duplicateColumn t c => "duplicate column " ++ c ++ " in table " ++ t
  | emptyTable t => "table " ++ t ++ " has no columns"
  | invalidAutoIncrement t c =>
    "column " ++ t ++ "." ++ c ++ " is AUTOINCREMENT but not an INTEGER PRIMARY KEY"

/-- AUTOINCREMENT stands only on an INTEGER primary key. -/
def Column.autoIncrementAllowed (c : Column) : Bool :=
  !c.isAutoIncrement || (c.isPrimaryKey && c.affinity = .integer)

/-- The first problem of the columns of `table`, where `seen` holds the names before them. -/
def firstColumnProblem? (table : String) (seen : List String) : List Column → Option SchemaProblem
  | [] => none
  | c :: rest =>
    if c.name ∈ seen then some (.duplicateColumn table c.name)
    else if !c.autoIncrementAllowed then some (.invalidAutoIncrement table c.name)
    else firstColumnProblem? table (c.name :: seen) rest

/-- The first problem inside a table. -/
def Table.problem? (t : Table) : Option SchemaProblem :=
  match t.columns with
  | [] => some (.emptyTable t.name)
  | columns => firstColumnProblem? t.name [] columns

/-- The first problem of `tables`, where `seen` holds the names before them. -/
def firstProblemAfter? (seen : List String) : List Table → Option SchemaProblem
  | [] => none
  | t :: rest =>
    if t.name ∈ seen then some (.duplicateTable t.name)
    else
      match t.problem? with
      | some p => some p
      | none => firstProblemAfter? (t.name :: seen) rest

/-- The first problem of a list of tables. -/
def firstProblem? (tables : List Table) : Option SchemaProblem :=
  firstProblemAfter? [] tables

end Tablewright
