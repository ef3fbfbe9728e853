import Tablewright.Json.Reader
import Tablewright.Json.Writer
import Tablewright.Schema.Table

/-!
# Schema documents

A schema script together with the tables extracted from it, for tools that read JSON.
`SchemaDocument.toText` writes the document, `SchemaDocument.ofText?` reads one back; what is
read may have further fields, and records may be written as arrays.
-/

namespace Tablewright

/-- A schema script and its tables. -/
structure SchemaDocument where
  /-- The script, verbatim. -/
  script : String
  /-- The tables, in the order of the script. -/
  tables : List Table
  deriving DecidableEq, Repr

namespace Affinity

/-- The affinity with the given keyword, in upper case. -/
def ofKeyword? (keyword : String) : Option Affinity :=
  all.find? fun a => a.keyword == keyword

/-- An affinity is written as its keyword. -/
def toJson (a : Affinity) : Json :=
  .ofText a.keyword

/-- An affinity is read from its keyword, or from an object that maps the keyword to null. -/
def ofJson? : Json → Option Affinity
  | .string (some keyword) => ofKeyword? keyword
  | .object [(some keyword, .null)] => ofKeyword? keyword
  | _ => none

end Affinity

namespace Column

/-- The fields of a column, in order. -/
def fieldNames : List String :=
  ["name", "affinity", "is_primary_key", "is_auto_increment", "is_nullable"]

/-- A column as an object. -/
def toJson (c : Column) : Json :=
  .ofFields [
    ("name", .ofText c.name),
    ("affinity", c.affinity.toJson),
    ("is_primary_key", .bool c.isPrimaryKey),
    ("is_auto_increment", .bool c.isAutoIncrement),
    ("is_nullable", .bool c.isNullable)]

/-- Read a column. -/
def ofJson? (value : Json) : Option Column :=
  match value.record? fieldNames with
  | some [name, affinity, primaryKey, autoIncrement, nullable] => do
    return ⟨← name.text?, ← Affinity.ofJson? affinity, ← primaryKey.bool?, ← autoIncrement.bool?,
      ← nullable.bool?⟩
  | _ => none

end Column

namespace Table

/-- A table as an object. -/
def toJson (t : Table) : Json :=
  .ofFields [("name", .ofText t.name), ("columns", .array (t.columns.map Column.toJson))]

/-- Read a table. -/
def ofJson? (value : Json) : Option Table :=
  match value.record? ["name", "columns"] with
  | some [name, columns] => do return ⟨← name.text?, ← columns.listOf? Column.ofJson?⟩
  | _ => none

end Table

namespace SchemaDocument

/-- A document as an object. -/
def toJson (d : SchemaDocument) : Json :=
  .ofFields [
    ("create_table", .ofText d.script),
    ("tables", .array (d.tables.map Table.toJson))]

/-- Read a document. -/
def ofJson? (value : Json) : Option SchemaDocument :=
  match value.record? ["create_table", "tables"] with
  | some [script, tables] => do return ⟨← script.text?, ← tables.listOf? Table.ofJson?⟩
  | _ => none

/-- The text of a document. -/
def toText (d : SchemaDocument) : String :=
  d.toJson.write

/-- Read the text of a document. -/
def ofText? (s : String) : Option SchemaDocument := do
  ofJson? (← Json.read? s)

end SchemaDocument

end Tablewright
