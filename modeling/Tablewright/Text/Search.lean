/-!
# Texts within texts
-/

namespace Tablewright.Text

/-- Whether `part` occurs in a text. -/
def occursIn (part : List Char) : List Char → Bool
  | [] => part.isEmpty
  | c :: rest => part.isPrefixOf (c :: rest) || occursIn part rest

/-- Whether a text contains another. -/
def contains (s part : String) : Bool :=
  occursIn part.toList s.toList

end Tablewright.Text
