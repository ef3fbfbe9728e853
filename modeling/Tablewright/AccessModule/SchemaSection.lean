import Tablewright.AccessModule.Block
import Tablewright.AccessModule.Literal
import Tablewright.AccessModule.Options
import Tablewright.Naming.Collision

/-!
# The schema section

The first section of a generated module: the schema script as a constant, the names of tables
and columns as constants, and an enumeration of all columns of the schema.
-/

namespace Tablewright.AccessModule

open Block Naming

/-- A public string constant. -/
def constant (name value : String) : String :=
  "pub const " ++ name ++ ": &str = " ++ value ++ ";"

/-- Every column of the schema with its table, in order. -/
def allColumns (tables : List Table) : List (Table × Column) :=
  tables.flatMap fun t => t.columns.map fun c => (t, c)

/-! ## Names -/

/-- The constants that hold the names of the tables. -/
def tablesModule (tables : List Table) : Block :=
  let names := tables.map fun t => screamingSnakeCase t.name
  let constants := tables.flatMap fun t =>
    line (constant (screamingSnakeCase t.name) (Text.quote t.name))
  line "/// SQL table names." ++
    wrap "pub mod tables \x7b"
      (constants ++ (if tables.isEmpty then [] else blank) ++
        line "/// Every table, in schema order." ++
        line ("pub const ALL: &[&str] = &[" ++ String.intercalate ", " names ++ "];"))
      "\x7d"

/-- The module of the columns of a table. -/
def tableColumns (t : Table) : Block :=
  wrap ("pub mod " ++ fieldIdentifier t.name ++ " \x7b")
    (t.columns.flatMap fun c =>
      line (constant (screamingSnakeCase c.name) (Text.quote (t.qualified c))))
    "\x7d"

/-- The constants that hold the qualified names of the columns. -/
def columnsModule (tables : List Table) : Block :=
  line "/// Qualified `table.column` names, one module per table." ++
    wrap "pub mod columns \x7b" (separated (tables.map tableColumns)) "\x7d"

/-! ## The enumeration of columns -/

/-- A variant of the enumeration, as it is referred to. -/
def variantPath (t : Table) (c : Column) : String :=
  "AllColumns::" ++ variant t c

/-- The constant of a qualified column name, as it is referred to. -/
def columnPath (t : Table) (c : Column) : String :=
  "columns::" ++ fieldIdentifier t.name ++ "::" ++ screamingSnakeCase c.name

/-- A line for each column of the schema. -/
def perColumn (tables : List Table) (f : Table → Column → String) : Block :=
  (allColumns tables).flatMap fun p => line (f p.1 p.2)

/-- The enumeration itself. -/
def enumeration (tables : List Table) : Block :=
  line "/// Every qualified column of the schema." ++
    line "#[derive(Debug, Clone, Copy, PartialEq, Eq, Hash)]" ++
    wrap "pub enum AllColumns \x7b" (perColumn tables fun t c => variant t c ++ ",") "\x7d"

/-- The list of all variants. -/
def variantList (tables : List Table) : Block :=
  line "/// Every column, in schema order." ++
    wrap "pub const ALL: &'static [AllColumns] = &["
      (perColumn tables fun t c => variantPath t c ++ ",") "];"

/-- A method that answers by the variant. -/
def byVariant (tables : List Table) (doc signature : String) (answer : Table → Column → String) :
    Block :=
  line doc ++
    wrap (signature ++ " \x7b")
      (wrap "match self \x7b"
        (perColumn tables fun t c => variantPath t c ++ " => " ++ answer t c ++ ",") "\x7d")
      "\x7d"

/-- The items of the enumeration. -/
def enumerationItems (tables : List Table) : Block :=
  wrap "impl AllColumns \x7b"
    (separated [
      variantList tables,
      byVariant tables "/// Qualified `table.column` name."
        "pub fn as_str(self) -> &'static str" columnPath,
      byVariant tables "/// Column name without its table."
        "pub fn column_name(self) -> &'static str" fun _ c => Text.quote c.name,
      line "/// Column name qualified by `table_alias` instead of its table." ++
        wrap "pub fn alias(self, table_alias: &str) -> String \x7b"
          (line "rt::alias(table_alias, self.as_str())") "\x7d"])
    "\x7d"

/-- How a column is displayed. -/
def display : Block :=
  wrap "impl std::fmt::Display for AllColumns \x7b"
    (wrap "fn fmt(&self, f: &mut std::fmt::Formatter<'_>) -> std::fmt::Result \x7b"
      (line "f.write_str(self.as_str())") "\x7d")
    "\x7d"

/-- The schema section. -/
def schemaSection (tables : List Table) (script : String) (options : GeneratorOptions) : Block :=
  separated [
    line ("use " ++ options.runtimeCrate ++ " as rt;"),
    line "/// Schema script this module was generated from." ++
      line (constant "CREATE_TABLE" (literal script)),
    tablesModule tables,
    columnsModule tables,
    enumeration tables,
    enumerationItems tables,
    display]

end Tablewright.AccessModule
