import Tablewright.Schema.Affinity

/-!
# Types of struct members

The type in which generated code holds the values of a column.
-/

namespace Tablewright

/-- The type of a member of a generated struct. -/
inductive MemberType
  | i64
  | f64
  | string
  | bytes
  deriving DecidableEq, Repr

namespace MemberType

/-- The type for the values of a column. -/
def ofAffinity : Affinity → MemberType
  | .integer => i64
  | .real | .numeric => f64
  | .text => string
  | .blob => bytes

/-- The type as generated code spells it. -/
def spelling : MemberType → String
  | i64 => "i64"
  | f64 => "f64"
  | string => "String"
  | bytes => "Vec<u8>"

/-- Whether values are copied rather than cloned. -/
def isCopy : MemberType → Bool
  | i64 | f64 => true
  | string | bytes => false

/-- The type of a member that may be absent, if `isOptional`. -/
def render (type : MemberType) (isOptional : Bool) : String :=
  if isOptional then "Option<" ++ type.spelling ++ ">" else type.spelling

end MemberType

end Tablewright
