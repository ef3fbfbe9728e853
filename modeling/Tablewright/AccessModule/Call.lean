import Tablewright.AccessModule.Params
import Tablewright.Session.Basic

/-!
# Calls of generated functions

What the functions that are generated for a table do in a session. Members of their parameters
are given by a function from column names to values, which has none where a member is absent.
-/

namespace Tablewright.AccessModule

/-- The members of a parameter struct: the values of columns. -/
abbrev Members := String → Option Value

/-- Insert rows. -/
def insertRows (table : Table) (rows : List Members) : SessionM Unit :=
  Session.write .insert table.name (columnNames .insert table)
    (rows.map (boundFields .insert table))

/-- Replace rows. -/
def replaceRows (table : Table) (rows : List Members) : SessionM Unit :=
  Session.write .replace table.name (columnNames .replace table)
    (rows.map (boundFields .replace table))

/-- Delete the rows that match all members that are there. -/
def deleteRows (table : Table) (filter : Members) : SessionM Unit :=
  Session.delete table.name (boundFields .delete table filter)

end Tablewright.AccessModule
