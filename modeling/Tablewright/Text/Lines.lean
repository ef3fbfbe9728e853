/-!
# Lines

A text is cut after every line feed; the line feed, and a carriage return right before it,
belong to no line. What follows the last line feed is a line unless it is empty. A carriage
return anywhere else stays in its line.
-/

namespace Tablewright.Text

/-- Put a character in front of the first line. -/
def consFirst (c : Char) : List (List Char) → List (List Char)
  | [] => [[c]]
  | line :: rest => (c :: line) :: rest

/-- The lines of a text. -/
def splitLines : List Char → List (List Char)
  | [] => []
  | '\n' :: rest => [] :: splitLines rest
  | '\r' :: '\n' :: rest => [] :: splitLines rest
  | c :: rest => consFirst c (splitLines rest)

/-- The lines of a text, as texts. -/
def lines (s : String) : List String :=
  (splitLines s.toList).map String.ofList

end Tablewright.Text
