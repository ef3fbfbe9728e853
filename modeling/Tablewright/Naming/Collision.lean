import Tablewright.Naming.Identifier
import Tablewright.Schema.Table

/-!
# Name collisions

Two names of a schema must not generate the same item. The items are checked in four namespaces:
the functions and modules of the tables, their types, the fields within one table and the
variants of all columns of the schema; besides, no table may generate the constant `ALL`.
`checkCollisions` reads the schema in order and reports the first name that meets an earlier one.
-/

namespace Tablewright.Naming

/-- Two names that generate one identifier. -/
structure Collision where
  identifier : String
  /-- The name met first. -/
  first : String
  /-- The name that met it. -/
  second : String
  deriving DecidableEq, Repr

/-- The diagnostic for a collision. -/
def Collision.message (c : Collision) : String :=
  "`" ++ c.first ++ "` and `" ++ c.second ++ "` both generate the identifier `" ++
    c.identifier ++ "`"

/-- The identifiers of a namespace, each with the name it was generated for. -/
abbrev Seen := List (String × String)

/-- Enter an identifier into a namespace that does not hold it yet. -/
def Seen.add (seen : Seen) (identifier source : String) : Except Collision Seen :=
  match seen.find? (·.1 == identifier) with
  | some (_, first) => .error ⟨identifier, first, source⟩
  | none => .ok ((identifier, source) :: seen)

/-- The variant of a column: type of the table, then name of the column. -/
def variant (table : Table) (column : Column) : String :=
  upperCamelCase table.name ++ upperCamelCase column.name

/-- Enter the columns of a table: into its fields, and into the variants of the schema. -/
def addColumns (table : Table) (fields variants : Seen) : List Column → Except Collision Seen
  | [] => .ok variants
  | column :: rest => do
    let source := table.qualified column
    let fields ← fields.add (fieldIdentifier column.name) source
    let variants ← variants.add (variant table column) source
    addColumns table fields variants rest

/-- Enter the tables of a schema. -/
def addTables (tables types variants : Seen) : List Table → Except Collision Unit
  | [] => .ok ()
  | table :: rest => do
    if screamingSnakeCase table.name = "ALL" then
      throw ⟨"ALL", table.name, "tables::ALL"⟩
    let tables ← tables.add (snakeCase table.name) table.name
    let types ← types.add (upperCamelCase table.name) table.name
    let variants ← addColumns table [] variants table.columns
    addTables tables types variants rest

/-- Fail at the first collision of a schema. -/
def checkCollisions (tables : List Table) : Except Collision Unit :=
  addTables [] [] [] tables

end Tablewright.Naming
