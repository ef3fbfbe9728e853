import Tablewright.Text.Blank
import Tablewright.Text.LetterCase
import Tablewright.Text.WordChar

/-!
# Phrases at the beginning of a line

The outline of a script is read line by line. A line is recognised by the phrase it begins with:
keywords in any case, white space between them, and a word boundary behind the last. Each
function here takes such a piece off the beginning of a text and answers what follows it.
Case is ignored by simple case folding, so that the Kelvin sign counts as a `k` and the long s
as an `s`.
-/

namespace Tablewright.Outline

open Text

/-- Take off a keyword, given in lower case. -/
def keyword? : List Char → List Char → Option (List Char)
  | [], rest => some rest
  | k :: ks, c :: rest => if foldCase c == k then keyword? ks rest else none
  | _ :: _, [] => none

/-- Take off white space, at least one character of it. -/
def blanks? : List Char → Option (List Char)
  | [] => none
  | c :: rest => if isBlank c then some (dropBlank rest) else none

/-- Take off keywords with white space between them. -/
def keywords? : List String → List Char → Option (List Char)
  | [], cs => some cs
  | [k], cs => keyword? k.toList cs
  | k :: ks, cs => do keywords? ks (← blanks? (← keyword? k.toList cs))

/-- Whether a word that ended here ends in the text. -/
def wordEnds (rest : List Char) : Bool :=
  !rest.head?.any isWordChar

/-- Whether a text begins with the keywords and a word boundary behind them. -/
def beginsWith (ks : List String) (cs : List Char) : Bool :=
  (keywords? ks cs).any wordEnds

/-- Whether a word that begins here begins in the text. -/
def wordBegins (before : Option Char) : Bool :=
  !before.any isWordChar

/-- Whether the keywords stand somewhere in a text, between word boundaries; `before` is the
character in front of the text. -/
def contains (ks : List String) (before : Option Char) : List Char → Bool
  | [] => false
  | c :: rest =>
    (wordBegins before && beginsWith ks (c :: rest)) || contains ks (some c) rest

/-- A letter, digit or underscore of a table name: an ASCII one, or a character that differs
from an ASCII letter in case only. -/
def isNameChar (c : Char) : Bool :=
  (foldCase c).isAlphanum || c == '_'

end Tablewright.Outline
