/-!
# Ranges of code points

A property of characters is given by a table of closed ranges of code points, a character map
by a table of shifts: the code points from `first` to `last` in steps of `step` move together,
`first` to `image`. Tables start above ASCII; the properties and maps built on them treat ASCII by
the functions of the standard library, so that `inRanges` and `shifted` are only reached by other
characters.
-/

namespace Tablewright.Text

/-- Whether `n` lies in one of the closed ranges of `table`. -/
def inRanges (table : List (Nat × Nat)) (n : Nat) : Bool :=
  table.any fun r => r.1 ≤ n && n ≤ r.2

/-- A run of code points that all move by the same distance. -/
abbrev Shift := Nat × Nat × Nat × Nat

/-- Whether the run covers `n`. -/
def Shift.covers : Shift → Nat → Bool
  | (first, last, step, _), n => first ≤ n && n ≤ last && (n - first) % step == 0

/-- The code point that `n` moves to, itself if no run covers it. -/
def shifted (table : List Shift) (n : Nat) : Nat :=
  match table.find? (·.covers n) with
  | some (first, _, _, image) => image + (n - first)
  | none => n

/-- Whether `c` is an ASCII character. -/
def isAscii (c : Char) : Bool :=
  c.val < 0x80

end Tablewright.Text
