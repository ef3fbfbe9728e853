import Tablewright.Json.Reader
import Tablewright.Sql.Value

/-!
# Number literals

The value of a number in a script. An integer beyond 64 bits is a double; a hexadecimal one has
at most 64 bits and is read as a signed word.
-/

namespace Tablewright.Sql

/-- The least 64-bit integer. -/
def minInteger : Int :=
  -9223372036854775808

/-- The greatest 64-bit integer. -/
def maxInteger : Int :=
  9223372036854775807

/-- Whether an integer fits into 64 bits. -/
def fits (n : Int) : Bool :=
  minInteger ≤ n && n ≤ maxInteger

/-- An integer as a value: a double if it does not fit. -/
def integerValue (n : Int) : Value :=
  if fits n then .integer n else .real (.ofInt n)

/-- The number that decimal digits spell. -/
def decimalDigits (cs : List Char) : Nat :=
  cs.foldl (fun n c => 10 * n + (c.toNat - '0'.toNat)) 0

/-- The number that hexadecimal digits spell. -/
def hexDigits (cs : List Char) : Nat :=
  cs.foldl (fun n c => 16 * n + (Json.hexDigit? c).getD 0) 0

/-- The parts of an unsigned decimal: all digits as one number, and the power of ten they are
multiplied with. -/
def decimalParts (cs : List Char) : Nat × Int :=
  let whole := cs.takeWhile Char.isDigit
  let rest := cs.dropWhile Char.isDigit
  let (places, rest) :=
    match rest with
    | '.' :: r => (r.takeWhile Char.isDigit, r.dropWhile Char.isDigit)
    | r => ([], r)
  let exponent : Int :=
    match rest with
    | _ :: '-' :: r => -(decimalDigits (r.takeWhile Char.isDigit))
    | _ :: '+' :: r => decimalDigits (r.takeWhile Char.isDigit)
    | _ :: r => decimalDigits (r.takeWhile Char.isDigit)
    | [] => 0
  (decimalDigits (whole ++ places), exponent - places.length)

/-- The double nearest to an unsigned decimal. -/
def decimalValue (negative : Bool) (cs : List Char) : Binary64 :=
  let (digits, exponent) := decimalParts cs
  .ofDecimal negative digits exponent

/-- The value of an integer literal, perhaps negated. -/
def integerLiteral (negative : Bool) (spelling : String) : Option Value :=
  match spelling.toList with
  | '0' :: x :: digits =>
    if x == 'x' || x == 'X' then
      let n : Int := hexDigits digits
      if 18446744073709551616 ≤ n then none
      else
        let word := if maxInteger < n then n - 18446744073709551616 else n
        some (integerValue (if negative then -word else word))
    else
      let n : Int := decimalDigits spelling.toList
      some (integerValue (if negative then -n else n))
  | cs =>
    let n : Int := decimalDigits cs
    some (integerValue (if negative then -n else n))

end Tablewright.Sql
