import Tablewright.Decimal.Binary64

/-!
# The shortest decimal

`Binary64.shortest` finds the decimal with the fewest digits that rounds to a given double, and
of those the nearest to it. The reals that round to a double form an interval around it, which
holds its ends if the significand is even; a grid of decimals meets the interval if and only if
one of the two neighbours of the double on that grid lies in it, and seventeen digits always
suffice.
-/

namespace Tablewright.Binary64

/-- The interval of reals that round to a positive finite double, and the double itself, as
multiples of `2 ^ exponent / 4`. -/
structure Interval where
  low : Nat
  value : Nat
  high : Nat
  closed : Bool

/-- The interval of a double. The neighbour below a power of two is nearer than the one above. -/
def interval (x : Binary64) : Interval :=
  let m := x.significand
  ⟨if x.fraction = 0 && 1 < x.exponentField then 4 * m - 1 else 4 * m - 2, 4 * m, 4 * m + 2,
    m % 2 == 0⟩

/-- The size of the power of ten that is just above a positive quotient. -/
def decimalSize (num den : Nat) : Int :=
  let guess : Int := digitCount num - digitCount den
  let reaches :=
    if 0 ≤ guess then den * Nat.pow 10 guess.toNat ≤ num else den ≤ num * Nat.pow 10 (-guess).toNat
  if reaches then guess + 1 else guess

/-- A positive quotient measured in steps of a power of ten. -/
def inSteps (num den : Nat) (step : Int) : Nat × Nat :=
  if 0 ≤ step then (num, den * Nat.pow 10 step.toNat) else (num * Nat.pow 10 (-step).toNat, den)

/-- The points of the grid with the given step that lie in the interval, as multiples of the
step, the nearer one first. -/
def gridPoint? (i : Interval) (scale : Nat × Nat) (step : Int) : Option Nat :=
  let (num, den) := inSteps (i.value * scale.1) scale.2 step
  let (low, _) := inSteps (i.low * scale.1) scale.2 step
  let (high, _) := inSteps (i.high * scale.1) scale.2 step
  let below := num / den
  let inside := fun k =>
    if i.closed then low ≤ k * den && k * den ≤ high else low < k * den && k * den < high
  let belowNearer := 2 * (num % den) ≤ den
  let candidates := if belowNearer then [below, below + 1] else [below + 1, below]
  candidates.find? fun k => k != 0 && inside k

/-- The first grid that meets the interval, from `digits` digits on. -/
def firstGridPoint (i : Interval) (scale : Nat × Nat) (size : Int) : Nat → Nat → Nat × Int
  | _, 0 => (0, 0)
  | digits, fuel + 1 =>
    let step := size - digits
    match gridPoint? i scale step with
    | some k => (k, step)
    | none => firstGridPoint i scale size (digits + 1) fuel

/-- A decimal without trailing zeros; `fuel` bounds their number. -/
def dropZeros (digits : Nat) (exponent : Int) : Nat → Nat × Int
  | 0 => (digits, exponent)
  | fuel + 1 =>
    if digits % 10 = 0 then dropZeros (digits / 10) (exponent + 1) fuel else (digits, exponent)

/-- The decimal `digits * 10 ^ exponent` with the fewest digits that rounds to the magnitude of
a finite double; zero is `0`. -/
def shortest (x : Binary64) : Nat × Int :=
  if x.significand = 0 then (0, 0)
  else
    let i := x.interval
    let e := x.exponent - 2
    let scale := if 0 ≤ e then (Nat.pow 2 e.toNat, 1) else (1, Nat.pow 2 (-e).toNat)
    let (digits, exponent) :=
      firstGridPoint i scale (decimalSize (i.value * scale.1) scale.2) 1 17
    dropZeros digits exponent 20

end Tablewright.Binary64
