import Tablewright.Sql.Conversion

/-!
# Arithmetic and truth

What the operators of SQL make of values. An operator on NULL is NULL; text and byte strings
count as the number they begin with. Integers that leave 64 bits become doubles, and doubles are
added, multiplied and divided exactly and then rounded once.
-/

namespace Tablewright

open Sql

namespace Value

/-- The number that a value counts as. -/
def toNumber : Value → Value
  | text s => numberPrefixOfText s
  | blob bytes => numberPrefixOfText (String.ofList (bytes.map fun b => Char.ofNat b.toNat))
  | v => v

/-- The truth of a value, none for NULL. -/
def truth (v : Value) : Option Bool :=
  match v.toNumber with
  | integer n => some (n != 0)
  | real x => some (x.significand != 0)
  | _ => none

/-- A truth value, NULL for none. -/
def ofTruth : Option Bool → Value
  | none => null
  | some true => integer 1
  | some false => integer 0

/-- Whether a condition with this value holds. -/
def holds (v : Value) : Bool :=
  v.truth == some true

/-- The double nearest to a quotient. -/
def realOf (num : Int) (den : Nat) : Value :=
  real (.ofRatio (num < 0) num.natAbs den)

/-- The exact value of a number, as a multiple of the least positive double. -/
def exact : Value → Int
  | integer n => Binary64.scaledInt n
  | real x => x.scaled
  | _ => 0

/-- An operation on two numbers: `onIntegers` where both are integers, else `onReals`. -/
def numeric (onIntegers : Int → Int → Value) (onReals : Int → Int → Value) (x y : Value) : Value :=
  match x.toNumber, y.toNumber with
  | null, _ => null
  | _, null => null
  | integer a, integer b => onIntegers a b
  | a, b => onReals a.exact b.exact

/-- The sum of two numbers. -/
def add : Value → Value → Value :=
  numeric (fun a b => integerValue (a + b)) fun a b => realOf (a + b) Binary64.unitsInOne

/-- The difference of two numbers. -/
def subtract : Value → Value → Value :=
  numeric (fun a b => integerValue (a - b)) fun a b => realOf (a - b) Binary64.unitsInOne

/-- The product of two numbers. -/
def multiply : Value → Value → Value :=
  numeric (fun a b => integerValue (a * b)) fun a b =>
    realOf (a * b) (Binary64.unitsInOne * Binary64.unitsInOne)

/-- The quotient of two numbers, toward zero for integers; NULL for a division by zero. -/
def divide : Value → Value → Value :=
  numeric (fun a b => if b = 0 then null else integerValue (a.tdiv b)) fun a b =>
    if b = 0 then null else realOf (if b < 0 then -a else a) b.natAbs

/-- The integer part of a number. -/
def truncated : Value → Int
  | integer n => n
  | real x => x.scaled.tdiv Binary64.unitsInOne
  | _ => 0

/-- The remainder of the integer parts of two numbers, with the sign of the first. -/
def remainder (x y : Value) : Value :=
  match x.toNumber, y.toNumber with
  | null, _ => null
  | _, null => null
  | a, b => if b.truncated = 0 then null else integerValue (a.truncated.tmod b.truncated)

/-- The text of a value that is not NULL. -/
def toText : Value → String
  | null => ""
  | integer n => toString n
  | real x => x.toColumnText
  | text s => s
  | blob bytes => String.ofList (bytes.map fun b => Char.ofNat b.toNat)

/-- Two values as one text. -/
def concat (x y : Value) : Value :=
  if x.isNull || y.isNull then null else text (x.toText ++ y.toText)

/-- A number with the opposite sign. -/
def negate (v : Value) : Value :=
  match v.toNumber with
  | integer n => integerValue (-n)
  | real x => real (.ofMagnitude (!x.isNegative) x.magnitude)
  | v => v

end Value

/-! ## Logic of three values -/

/-- A conjunction: false if either side is, unknown if neither side is and one is unknown. -/
def Truth.and : Option Bool → Option Bool → Option Bool
  | some false, _ => some false
  | _, some false => some false
  | some true, some true => some true
  | _, _ => none

/-- A disjunction: true if either side is, unknown if neither side is and one is unknown. -/
def Truth.or : Option Bool → Option Bool → Option Bool
  | some true, _ => some true
  | _, some true => some true
  | some false, some false => some false
  | _, _ => none

end Tablewright
