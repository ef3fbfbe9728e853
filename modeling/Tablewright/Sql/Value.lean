import Tablewright.Decimal.Binary64

/-!
# SQL values

The values a database stores and a statement binds: NULL, 64-bit integers, binary
floating-point numbers, texts and byte strings.
-/

namespace Tablewright

/-- A SQL value. -/
inductive Value
  | null
  | integer (n : Int)
  | real (x : Binary64)
  | text (s : String)
  | blob (bytes : List UInt8)
  deriving DecidableEq, Repr, Inhabited

end Tablewright
