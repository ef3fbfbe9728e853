import Tablewright.Text.Ranges

/-!
# White space

The property White_Space (`isBlank`) and the trimming of text by it (`trimBlank`).
-/

namespace Tablewright.Text

/-- The White_Space code points. -/
def blankRanges : List (Nat × Nat) := [
    (0x09, 0x0D), (0x20, 0x20), (0x85, 0x85), (0xA0, 0xA0), (0x1680, 0x1680), (0x2000, 0x200A),
    (0x2028, 0x2029), (0x202F, 0x202F), (0x205F, 0x205F), (0x3000, 0x3000)]

/-- The property White_Space. -/
def isBlank (c : Char) : Bool :=
  inRanges blankRanges c.toNat

/-- The text without the white space at its beginning. -/
def dropBlank (cs : List Char) : List Char :=
  cs.dropWhile isBlank

/-- The text without the white space at both ends. -/
def trimBlank (s : String) : String :=
  String.ofList (dropBlank (dropBlank s.toList).reverse).reverse

end Tablewright.Text
