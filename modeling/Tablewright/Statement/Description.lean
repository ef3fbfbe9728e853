import Tablewright.Decimal.Notation
import Tablewright.Statement.Fields
import Tablewright.Text.Quoted

/-!
# Values and parameters in diagnostics

A value is described by its class and what it holds: `Integer(1)`, `Text("x")`, `Blob([1, 255])`.
-/

namespace Tablewright

/-- A list in brackets. -/
def describeList (items : List String) : String :=
  "[" ++ String.intercalate ", " items ++ "]"

/-- A value with the name of its class. -/
def Value.describe : Value → String
  | null => "Null"
  | integer n => "Integer(" ++ toString n ++ ")"
  | real x => "Real(" ++ x.describe ++ ")"
  | text s => "Text(" ++ Text.quote s ++ ")"
  | blob bytes => "Blob(" ++ describeList (bytes.map fun b => toString b.toNat) ++ ")"

/-- Parameters as pairs. -/
def Parameters.describe (parameters : Parameters) : String :=
  describeList (parameters.map fun p => "(" ++ Text.quote p.1 ++ ", " ++ p.2.describe ++ ")")

end Tablewright
