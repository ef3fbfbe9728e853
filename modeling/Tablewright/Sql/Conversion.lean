import Tablewright.Decimal.Notation
import Tablewright.Schema.Affinity
import Tablewright.Sql.Grammar.Number
import Tablewright.Text.Search

/-!
# Conversion and comparison of values

A column converts what is stored in it by its affinity (`Affinity.convert`): text that looks
like a number becomes one in a numeric column, a number becomes text in a text column. Values
compare first by their class, NULL before numbers before text before byte strings
(`Value.compare`); numbers compare by their exact value, text by code points. The affinity of a
comparison is that of the column on either side (`comparisonAffinity`).
-/

namespace Tablewright

open Sql

/-! ## Numbers in text -/

/-- White space around a number. -/
def isNumberSpace (c : Char) : Bool :=
  c == ' ' || (9 ≤ c.toNat && c.toNat ≤ 13)

/-- A text split into a sign and what follows it. -/
def splitSign : List Char → Bool × List Char
  | '-' :: rest => (true, rest)
  | '+' :: rest => (false, rest)
  | cs => (false, cs)

/-- The unsigned number at the beginning of a text, whether it is an integer, and what follows
it. An exponent without digits is not part of a number. -/
def numberPrefix? (cs : List Char) : Option (List Char × Bool × List Char) :=
  let whole := cs.dropWhile Char.isDigit
  let (fraction, isInteger) :=
    match whole with
    | '.' :: r => (r.dropWhile Char.isDigit, false)
    | r => (r, true)
  let mantissa := cs.take (cs.length - fraction.length)
  if !mantissa.any Char.isDigit then none
  else
    let exponent :=
      match fraction with
      | e :: r =>
        let digits := (splitSign r).2
        if (e == 'e' || e == 'E') && digits.head?.any Char.isDigit then
          some (digits.dropWhile Char.isDigit)
        else none
      | [] => none
    match exponent with
    | some rest => some (cs.take (cs.length - rest.length), false, rest)
    | none => some (mantissa, isInteger, fraction)

/-- The value of an unsigned number. -/
def numberValue (negative isInteger : Bool) (cs : List Char) : Value :=
  let n : Int := decimalDigits cs
  let signed := if negative then -n else n
  if isInteger && fits signed then .integer signed else .real (decimalValue negative cs)

/-- The number that a text looks like: a number with white space around it. -/
def numberOfText? (s : String) : Option Value :=
  let (negative, cs) := splitSign (s.toList.dropWhile isNumberSpace)
  match numberPrefix? cs with
  | some (number, isInteger, rest) =>
    if rest.all isNumberSpace then some (numberValue negative isInteger number) else none
  | none => none

/-- The number at the beginning of a text, zero if there is none. -/
def numberPrefixOfText (s : String) : Value :=
  let (negative, cs) := splitSign (s.toList.dropWhile isNumberSpace)
  match numberPrefix? cs with
  | some (number, isInteger, _) => numberValue negative isInteger number
  | none => .integer 0

/-! ## Affinities -/

/-- The integer that a double stands for in a numeric column: any but the two outermost. -/
def integerOfReal? (x : Binary64) : Option Int :=
  match x.toInt? with
  | some n => if minInteger < n && n < maxInteger then some n else none
  | none => none

/-- A number as a numeric column stores it. -/
def Value.preferInteger : Value → Value
  | .real x => (integerOfReal? x).elim (.real x) .integer
  | v => v

/-- A number as a column of doubles stores it. -/
def Value.preferReal : Value → Value
  | .integer n => .real (.ofInt n)
  | .real x => .real (if x.significand = 0 && x.isFinite then .zero else x)
  | v => v

/-- Text that looks like a number, as that number. -/
def Value.textToNumber : Value → Value
  | .text s => (numberOfText? s).getD (.text s)
  | v => v

/-- A number as text. -/
def Value.numberToText : Value → Value
  | .integer n => .text (toString n)
  | .real x => .text x.toColumnText
  | v => v

namespace Affinity

/-- What a column stores for a value. -/
def convert (a : Affinity) (v : Value) : Value :=
  match a with
  | .integer => v.textToNumber.preferInteger
  | .numeric => v.textToNumber.preferInteger
  | .real => v.textToNumber.preferReal
  | .text => v.numberToText
  | .blob => v

/-- Whether a column prefers numbers. -/
def isNumeric : Affinity → Bool
  | integer | real | numeric => true
  | text | blob => false

/-- The affinity of a column by its declared type. -/
def ofDeclaredType (type : String) : Affinity :=
  let cs := (Text.lowerAscii type).toList
  let mentions := fun (part : String) => Text.occursIn part.toList cs
  if type.isEmpty then .blob
  else if mentions "int" then .integer
  else if mentions "char" || mentions "clob" || mentions "text" then .text
  else if mentions "blob" then .blob
  else if mentions "real" || mentions "floa" || mentions "doub" then .real
  else .numeric

end Affinity

/-! ## Comparison -/

/-- Lists compare item by item; a proper beginning comes first. -/
def compareLists {α : Type} (f : α → α → Ordering) : List α → List α → Ordering
  | [], [] => .eq
  | [], _ :: _ => .lt
  | _ :: _, [] => .gt
  | a :: as, b :: bs => (f a b).then (compareLists f as bs)

namespace Value

/-- The class of a value, by which values compare first. -/
def rank : Value → Nat
  | null => 0
  | integer _ => 1
  | real _ => 1
  | text _ => 2
  | blob _ => 3

/-- The order of values. -/
def compare : Value → Value → Ordering
  | integer a, integer b => Ord.compare a b
  | integer a, real b => Ord.compare (Binary64.scaledInt a) b.scaled
  | real a, integer b => Ord.compare a.scaled (Binary64.scaledInt b)
  | real a, real b => Ord.compare a.scaled b.scaled
  | text a, text b => compareLists Ord.compare a.toList b.toList
  | blob a, blob b => compareLists Ord.compare a b
  | a, b => Ord.compare a.rank b.rank

/-- Whether two values count as one in a key. -/
def sameKey (a b : Value) : Bool :=
  compare a b == .eq

/-- Whether a value is NULL. -/
def isNull : Value → Bool
  | null => true
  | _ => false

end Value

/-- The affinity that a comparison applies to both sides, from those of its sides. -/
def comparisonAffinity : Option Affinity → Option Affinity → Affinity
  | some a, some b => if a.isNumeric || b.isNumeric then .numeric else .blob
  | some a, none => a
  | none, some b => b
  | none, none => .blob

/-- A pair of values as a comparison with the given affinity sees them. -/
def comparands (a : Affinity) (x y : Value) : Value × Value :=
  if a.isNumeric then (x.textToNumber, y.textToNumber)
  else if a = .text && (x.rank == 2 || y.rank == 2) then (x.numberToText, y.numberToText)
  else (x, y)

/-- The order of two values under an affinity. -/
def compareUnder (a : Affinity) (x y : Value) : Ordering :=
  let (x, y) := comparands a x y
  x.compare y

end Tablewright
