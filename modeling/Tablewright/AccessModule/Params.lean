import Tablewright.AccessModule.MemberType
import Tablewright.Schema.Table
import Tablewright.Statement.Fields

/-!
# Parameter structs

For each table there are three parameter structs: a row to insert, a row to replace and a filter
for deletion. A member is always bound or left out when it is absent (`Presence`); what a struct
binds for given members is `boundFields`.
-/

namespace Tablewright.AccessModule

/-- What a parameter struct is for. -/
inductive Role
  | insert
  | replace
  | delete
  deriving DecidableEq, Repr

/-- How a parameter struct exposes a column. -/
inductive Presence
  /-- Always bound; a nullable member binds NULL when it is absent. -/
  | required (nullable : Bool)
  /-- Left out of the statement when it is absent. -/
  | omittable
  deriving DecidableEq, Repr

/-- A member of a parameter struct. -/
structure Member where
  column : Column
  presence : Presence
  deriving DecidableEq, Repr

namespace Presence

/-- Whether the member may be absent. -/
def isOptional : Presence → Bool
  | required nullable => nullable
  | omittable => true

end Presence

/-- The members of the struct for `role`: an insert has all columns but the autoincrement key, a
replacement has the primary key and may have any other column, a filter may have any column. -/
def members (role : Role) (table : Table) : List Member :=
  match role with
  | .insert => table.insertableColumns.map fun c => ⟨c, .required c.isNullable⟩
  | .replace =>
    table.columns.map fun c => ⟨c, if c.isPrimaryKey then .required false else .omittable⟩
  | .delete => table.columns.map fun c => ⟨c, .omittable⟩

/-- What a member binds. -/
def Member.field? (member : Member) (value : Option Value) : Option (String × Value) :=
  match member.presence with
  | .required _ => some (member.column.name, value.getD .null)
  | .omittable => value.map fun v => (member.column.name, v)

/-- The fields that a struct binds, where `value` gives the value of a column unless its member
is absent. -/
def boundFields (role : Role) (table : Table) (value : String → Option Value) : Fields :=
  (members role table).filterMap fun m => m.field? (value m.column.name)

/-- The columns that a statement for `role` may name. -/
def columnNames (role : Role) (table : Table) : List String :=
  (members role table).map (·.column.name)

end Tablewright.AccessModule
