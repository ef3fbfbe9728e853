import Tablewright.Schema.Validation
import Tablewright.Sql.Failure

/-!
# Failed extractions

Why no tables came out of a script.
-/

namespace Tablewright

/-- Why a script was not understood. -/
inductive ScriptFault
  /-- A line begins a table definition in a layout that is not supported. -/
  | unsupportedTable (line : Nat) (text : String)
  /-- The database does not accept the script. -/
  | rejected
  deriving DecidableEq, Repr

/-- Why an extraction failed. -/
inductive ExtractionError
  | script (fault : ScriptFault)
  /-- A column is declared with a type that is no affinity. -/
  | unknownType (table column declared : String)
  /-- The database does not tell of its catalog. -/
  | database (failure : Sql.Failure)
  /-- The tables make no sound schema. -/
  | invalid (problem : SchemaProblem)
  deriving DecidableEq, Repr

/-- The diagnostic for a script that was not understood. -/
def ScriptFault.message : ScriptFault → String
  | unsupportedTable line text =>
    "schema parse error: line " ++ toString line ++ ": unsupported table definition '" ++ text ++
      "'"
  | rejected => "schema parse error"

/-- The diagnostic for a failed extraction. -/
def ExtractionError.message : ExtractionError → String
  | script fault => fault.message
  | unknownType table column declared =>
    "unknown type affinity '" ++ declared ++ "' for column " ++ table ++ "." ++ column
  | database failure => "database error" ++ ((failure.text?.map (": " ++ ·)).getD "")
  | invalid problem => "invalid schema: " ++ problem.message

/-- Tables that make a sound schema. -/
def validated (tables : List Table) : Except ExtractionError (List Table) :=
  match firstProblem? tables with
  | some problem => .error (.invalid problem)
  | none => .ok tables

end Tablewright
