import Tablewright.Sql.Value

/-!
# Fields and parameters

What a caller hands over for one row or one filter, and what a statement binds.
-/

namespace Tablewright

/-- Column names with their values, in order. -/
abbrev Fields := List (String × Value)

/-- Parameter names, without the colon, with their values, in order. -/
abbrev Parameters := List (String × Value)

/-- Whether a row supplies the column. -/
def Fields.supplies (row : Fields) (column : String) : Bool :=
  row.any fun field => field.1 == column

/-- The fields of a filter as parameters. -/
def Fields.named (fields : Fields) : Parameters :=
  fields

end Tablewright
