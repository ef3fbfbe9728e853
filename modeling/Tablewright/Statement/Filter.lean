import Tablewright.Event
import Tablewright.Statement.Fields

/-!
# Filters

A filter asks for equality in each of its fields. A deletion without any field has an empty
condition, which is no statement: a table is never emptied by accident.
-/

namespace Tablewright

namespace Filter

/-- The conjunction of `k = :k` over the fields. -/
def condition (fields : Fields) : String :=
  String.intercalate " AND " (fields.map fun field => field.1 ++ " = :" ++ field.1)

/-- The statement that deletes the rows matching every field. -/
def deletion (table : String) (fields : Fields) : String :=
  "DELETE FROM " ++ table ++ " WHERE " ++ condition fields

/-- The events of building a deletion: a warning if there is no filter. -/
def events (table : String) (fields : Fields) : List Event :=
  if fields.isEmpty then
    [⟨.warning, "delete called without any filter", [("table", table)]⟩]
  else []

end Filter

/-- What follows the first full stop of a text, the text itself if there is none. -/
def afterFirstDot (cs : List Char) : List Char :=
  match cs.dropWhile (· != '.') with
  | [] => cs
  | _ :: rest => rest

/-- A column name qualified by `label` instead of its table. -/
def aliased (label qualified : String) : String :=
  label ++ "." ++ String.ofList (afterFirstDot qualified.toList)

end Tablewright
