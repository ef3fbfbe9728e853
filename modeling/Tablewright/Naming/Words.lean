import Tablewright.Text.Alphabetic
import Tablewright.Text.LetterCase

/-!
# Words of a name

A name is cut into lower-case words at everything that is neither letter nor digit and at
changes of case: `periodicTask`, `periodic_task` and `PeriodicTask` all have the words `periodic`
and `task`. A run of upper-case letters keeps together up to its last letter, which begins the
next word if a lower-case letter follows (`HTTPServer` has `http` and `server`).
-/

namespace Tablewright.Naming

open Text

/-- Whether an upper-case letter after `previous` and before `next` begins a word. -/
def beginsWord (previous : Char) (next : Option Char) : Bool :=
  isLowercase previous || isNumeric previous || (isUppercase previous && next.any isLowercase)

/-- Put a finished word in front, unless it is empty. -/
def flush (word : List Char) (rest : List (List Char)) : List (List Char) :=
  if word.isEmpty then rest else word :: rest

/-- The words of a text, where `word` is the part of a word already read and `previous` the last
character read. -/
def wordsFrom (previous : Char) (word : List Char) : List Char → List (List Char)
  | [] => flush word []
  | c :: rest =>
    if !isAlphanumeric c then flush word (wordsFrom c [] rest)
    else if isUppercase c && !word.isEmpty && beginsWord previous rest.head? then
      word :: wordsFrom c (lowercase c) rest
    else wordsFrom c (word ++ lowercase c) rest

/-- The words of a name. -/
def words (name : List Char) : List (List Char) :=
  wordsFrom ' ' [] name

end Tablewright.Naming
