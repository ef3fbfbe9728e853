import Tablewright.Decimal.Shortest

/-!
# Writing doubles

Two notations for doubles. `Binary64.describe` is exact: it has the digits of the shortest
decimal, positional from `1e-4` up to `1e16` with at least one decimal place, scientific outside.
`Binary64.toColumnText` is what a text column stores for a double: fifteen significant digits,
scientific from `1e15` on and below `1e-4`, with a decimal point in any case.
-/

namespace Tablewright.Binary64

/-- The decimal digits of a number. -/
def digitsText (n : Nat) : List Char :=
  Nat.toDigits 10 n

/-- `digits * 10 ^ exponent` in positional notation with at least one decimal place. -/
def positional (digits : Nat) (exponent : Int) : String :=
  let text := digitsText digits
  let point : Int := text.length + exponent
  if point ≤ 0 then String.ofList ("0.".toList ++ List.replicate (-point).toNat '0' ++ text)
  else if 0 ≤ exponent then
    String.ofList (text ++ List.replicate exponent.toNat '0' ++ ".0".toList)
  else
    String.ofList (text.take point.toNat ++ '.' :: text.drop point.toNat)

/-- The decimal places of a scientific notation, none if they would be zero. -/
def places (rest : List Char) : List Char :=
  if rest.isEmpty then [] else '.' :: rest

/-- The sign in front of a magnitude. -/
def signText (x : Binary64) : String :=
  if x.isNegative then "-" else ""

/-- The exact notation. -/
def describe (x : Binary64) : String :=
  if x.isNaN then "NaN"
  else if !x.isFinite then x.signText ++ "inf"
  else
    let (digits, exponent) := x.shortest
    let text := digitsText digits
    let power : Int := text.length + exponent - 1
    if digits = 0 then x.signText ++ "0.0"
    else if -4 ≤ power && power < 16 then x.signText ++ positional digits exponent
    else
      x.signText ++ String.ofList (text.take 1 ++ places (text.drop 1)) ++ "e" ++ toString power

/-- The digits of the nearest decimal with fifteen digits and its exponent; a tie goes up. -/
def fifteenDigits (x : Binary64) : Nat × Int :=
  let e := x.exponent
  let scale := if 0 ≤ e then (Nat.pow 2 e.toNat, 1) else (1, Nat.pow 2 (-e).toNat)
  let step := decimalSize (x.significand * scale.1) scale.2 - 15
  let (num, den) := inSteps (x.significand * scale.1) scale.2 step
  dropZeros ((2 * num + den) / (2 * den)) step 20

/-- The exponent of a scientific notation: a sign and two digits at least. -/
def exponentText (power : Int) : String :=
  let digits := digitsText power.natAbs
  (if power < 0 then "-" else "+") ++
    String.ofList (List.replicate (2 - digits.length) '0' ++ digits)

/-- What a text column stores for a double. -/
def toColumnText (x : Binary64) : String :=
  if !x.isFinite then x.signText ++ "Inf"
  else if x.significand = 0 then "0.0"
  else
    let (digits, exponent) := x.fifteenDigits
    let text := digitsText digits
    let power : Int := text.length + exponent - 1
    if -4 ≤ power && power ≤ 14 then x.signText ++ positional digits exponent
    else
      let rest := if text.length = 1 then ['0'] else text.drop 1
      x.signText ++ String.ofList (text.take 1 ++ '.' :: rest) ++ "e" ++ exponentText power

end Tablewright.Binary64
