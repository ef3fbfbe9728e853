import Tablewright.AccessModule.Params
import Tablewright.AccessModule.SchemaSection

/-!
# Table sections

The section of a table: for each role a parameter struct with the fields it binds, and a
function that writes or deletes rows by one statement.
-/

namespace Tablewright.AccessModule

open Block Naming

namespace Role

/-- The role at the beginning of a type's name. -/
def typePrefix : Role → String
  | insert => "Insert"
  | replace => "Replace"
  | delete => "Delete"

/-- The role at the beginning of a function's name. -/
def functionPrefix : Role → String
  | insert => "insert_"
  | replace => "replace_"
  | delete => "delete_"

end Role

/-- The name of a parameter struct. -/
def structName (role : Role) (t : Table) : String :=
  role.typePrefix ++ upperCamelCase t.name ++ "Params"

/-- The name of a function. -/
def functionName (role : Role) (t : Table) : String :=
  role.functionPrefix ++ snakeCase t.name

/-- The constant that holds the name of a table, as it is referred to. -/
def tablePath (t : Table) : String :=
  "tables::" ++ screamingSnakeCase t.name

/-! ## Parameter structs -/

/-- The comment on a parameter struct. -/
def structDoc (role : Role) (t : Table) : String :=
  match role with
  | .insert =>
    "Row for [`" ++ functionName role t ++
      "`]. Autoincrement columns are assigned by the database."
  | .replace =>
    "Row for [`" ++ functionName role t ++
      "`]. Omitted columns are reset to their schema default."
  | .delete => "Equality filters for [`" ++ functionName role t ++ "`]; `None` fields are ignored."

namespace Member

/-- The type of the values of a member. -/
def type (m : Member) : MemberType :=
  .ofAffinity m.column.affinity

/-- The identifier of a member. -/
def identifier (m : Member) : String :=
  fieldIdentifier m.column.name

/-- The declaration of a member. -/
def declaration (m : Member) : String :=
  "pub " ++ m.identifier ++ ": " ++ m.type.render m.presence.isOptional ++ ","

/-- A place whose value is taken over. -/
def owned (m : Member) (place : String) : String :=
  if m.type.isCopy then place else place ++ ".clone()"

/-- A pair of the column's name and a bound value. -/
def pair (m : Member) (value : String) : String :=
  "(" ++ Text.quote m.column.name ++ ", rt::Value::from(" ++ value ++ "))"

/-- The member of the struct at hand. -/
def place (m : Member) : String :=
  "self." ++ m.identifier

/-- The lines that bind the member. -/
def push (m : Member) : Block :=
  match m.presence with
  | .required _ => line ("fields.push(" ++ m.pair (m.owned m.place) ++ ");")
  | .omittable =>
    let pattern := if m.type.isCopy then m.place else "&" ++ m.place
    wrap ("if let Some(value) = " ++ pattern ++ " \x7b")
      (line ("fields.push(" ++ m.pair (m.owned "value") ++ ");")) "\x7d"

end Member

/-- The body of the method that lists the bound fields: one list if every member is bound, else
a list that grows member by member. -/
def fieldsBody (ms : List Member) : Block :=
  if ms.all fun m => m.presence ≠ .omittable then
    wrap "vec![" (ms.flatMap fun m => line (m.pair (m.owned m.place) ++ ",")) "]"
  else
    line "let mut fields = rt::Fields::new();" ++ ms.flatMap Member.push ++ line "fields"

/-- A parameter struct and its method. -/
def paramsStruct (role : Role) (t : Table) (options : GeneratorOptions) : Block :=
  let ms := members role t
  separated [
    line ("/// " ++ structDoc role t) ++
      line options.deriveAttribute ++
      wrap ("pub struct " ++ structName role t ++ " \x7b")
        (ms.flatMap fun m => line m.declaration) "\x7d",
    wrap ("impl " ++ structName role t ++ " \x7b")
      (line "/// Column/value pairs for every bound column, in column order." ++
        wrap "pub fn fields(&self) -> rt::Fields \x7b" (fieldsBody ms) "\x7d")
      "\x7d"]

/-! ## Functions -/

/-- The comment on a function that writes rows. -/
def writeDoc (role : Role) (t : Table) : String :=
  match role with
  | .replace => "Overwrites the `" ++ t.name ++
      "` rows identified by the primary key of each of `rows`."
  | _ => "Inserts `rows` into `" ++ t.name ++ "` with one statement, in order."

/-- The function that writes rows by one statement. -/
def writeFunction (role : Role) (t : Table) : Block :=
  let columns := (columnNames role t).map Text.quote
  line ("/// " ++ writeDoc role t) ++
    wrap ("pub fn " ++ functionName role t ++ "<D: rt::Datastore>(db: &D, rows: &[" ++
        structName role t ++ "]) -> rt::Result<()> \x7b")
      (line ("let rows: Vec<rt::Fields> = rows.iter().map(" ++ structName role t ++
          "::fields).collect();") ++
        wrap "let (sql, params) = rt::batch_statement("
          (line ("rt::BatchVerb::" ++ role.typePrefix ++ ",") ++
            line (tablePath t ++ ",") ++
            line ("&[" ++ String.intercalate ", " columns ++ "],") ++
            line "&rows,")
          ")?;" ++
        line "db.query(&sql, &params)?;" ++
        line "Ok(())")
      "\x7d"

/-- The function that deletes the rows matching a filter. -/
def deleteFunction (t : Table) : Block :=
  line ("/// Deletes the `" ++ t.name ++ "` rows matching every set field of `filter`.") ++
    line "///" ++
    line "/// A filter with no field set is rejected by the database." ++
    wrap ("pub fn " ++ functionName .delete t ++ "<D: rt::Datastore>(db: &D, filter: &" ++
        structName .delete t ++ ") -> rt::Result<()> \x7b")
      (line "let fields = filter.fields();" ++
        line ("let sql = rt::delete_statement(" ++ tablePath t ++ ", &fields);") ++
        line "db.query(&sql, &rt::named(fields))?;" ++
        line "Ok(())")
      "\x7d"

/-- The section of a table. -/
def tableSection (t : Table) (options : GeneratorOptions) : Block :=
  separated [
    line ("// table: " ++ t.name),
    paramsStruct .insert t options,
    writeFunction .insert t,
    paramsStruct .replace t options,
    writeFunction .replace t,
    paramsStruct .delete t options,
    deleteFunction t]

end Tablewright.AccessModule
