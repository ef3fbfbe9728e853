/-!
# Double-precision numbers

A double is its 64 bits: sign, eleven bits of exponent and 52 bits of fraction. All arithmetic
on doubles that the library needs is exact arithmetic on natural numbers and integers: a finite
double is `± significand * 2 ^ exponent` (`significand`, `exponent`), and `ofRatio` finds the
double nearest to a quotient, a tie going to the even significand. `scaled` is the value as a
multiple of the least positive double, which decides all comparisons.
-/

namespace Tablewright

/-- A double, given by its bits. -/
structure Binary64 where
  bits : UInt64
  deriving DecidableEq, Repr, Inhabited

namespace Binary64

/-! ## Parts -/

/-- Whether the sign bit is set. -/
def isNegative (x : Binary64) : Bool :=
  Nat.pow 2 63 ≤ x.bits.toNat

/-- The bits below the sign. -/
def magnitude (x : Binary64) : Nat :=
  x.bits.toNat % Nat.pow 2 63

/-- The exponent bits. -/
def exponentField (x : Binary64) : Nat :=
  x.magnitude / Nat.pow 2 52

/-- The fraction bits. -/
def fraction (x : Binary64) : Nat :=
  x.magnitude % Nat.pow 2 52

/-- Neither infinite nor a NaN. -/
def isFinite (x : Binary64) : Bool :=
  x.exponentField < 0x7FF

/-- Not a number. -/
def isNaN (x : Binary64) : Bool :=
  x.exponentField == 0x7FF && x.fraction != 0

/-- The significand of a finite double. -/
def significand (x : Binary64) : Nat :=
  if x.exponentField = 0 then x.fraction else Nat.pow 2 52 + x.fraction

/-- The exponent that goes with the significand. -/
def exponent (x : Binary64) : Int :=
  (max x.exponentField 1 : Nat) - 1075

/-- The double with the given sign and bits below the sign. -/
def ofMagnitude (negative : Bool) (magnitude : Nat) : Binary64 :=
  ⟨UInt64.ofNat ((if negative then Nat.pow 2 63 else 0) + magnitude)⟩

/-- The bits of infinity below the sign. -/
def infinity : Nat :=
  0x7FF * Nat.pow 2 52

/-- Positive zero. -/
def zero : Binary64 :=
  ⟨0⟩

/-! ## Rounding -/

/-- The natural number nearest to a quotient; a tie goes to the even one. -/
def roundHalfEven (num den : Nat) : Nat :=
  let q := num / den
  let twice := 2 * (num % den)
  if den < twice || (twice == den && q % 2 == 1) then q + 1 else q

/-- A quotient divided by a power of two. -/
def scaleDown (num den : Nat) (exponent : Int) : Nat × Nat :=
  if 0 ≤ exponent then (num, den * Nat.pow 2 exponent.toNat)
  else (num * Nat.pow 2 (-exponent).toNat, den)

/-- The exponent for which a positive quotient has a significand of 53 bits, or the least
exponent there is. -/
def exponentFor (num den : Nat) : Int :=
  let guess : Int := num.log2 - den.log2 - 52
  let (n, d) := scaleDown num den guess
  max (if n / d < Nat.pow 2 52 then guess - 1 else guess) (-1074)

/-- The bits below the sign of the double nearest to a quotient. -/
def roundRatio (num den : Nat) : Nat :=
  if num = 0 then 0
  else
    let e := exponentFor num den
    let (n, d) := scaleDown num den e
    min ((e + 1074).toNat * Nat.pow 2 52 + roundHalfEven n d) infinity

/-- The double nearest to a quotient. -/
def ofRatio (negative : Bool) (num den : Nat) : Binary64 :=
  ofMagnitude negative (roundRatio num den)

/-- The double nearest to an integer. -/
def ofInt (n : Int) : Binary64 :=
  ofRatio (n < 0) n.natAbs 1

/-- The number of decimal digits of a number, one for zero. -/
def digitCount (n : Nat) : Nat :=
  (Nat.toDigits 10 n).length

/-- The double nearest to `digits * 10 ^ exponent`. -/
def ofDecimal (negative : Bool) (digits : Nat) (exponent : Int) : Binary64 :=
  let size := digitCount digits + exponent
  if digits = 0 || size < -330 then ofMagnitude negative 0
  else if 310 < size then ofMagnitude negative infinity
  else if 0 ≤ exponent then ofRatio negative (digits * Nat.pow 10 exponent.toNat) 1
  else ofRatio negative digits (Nat.pow 10 (-exponent).toNat)

/-! ## Values -/

/-- The value as a multiple of the least positive double; an infinity lies beyond all finite
values. -/
def scaled (x : Binary64) : Int :=
  let size := x.significand * Nat.pow 2 (x.exponent + 1074).toNat
  if x.isNegative then -size else size

/-- How many of the least positive double make one. -/
def unitsInOne : Nat :=
  Nat.pow 2 1074

/-- An integer as a multiple of the least positive double. -/
def scaledInt (n : Int) : Int :=
  n * unitsInOne

/-- The integer that a double is equal to. -/
def toInt? (x : Binary64) : Option Int :=
  if x.isFinite && x.scaled % unitsInOne == 0 then some (x.scaled / unitsInOne) else none

end Binary64

end Tablewright
