import Tablewright.Outline.Phrase

/-!
# Lines of a schema script

What a line of a script is by itself (`Line.classify`), whatever stands around it. The kinds are
tried in a fixed order: the line that opens a table definition, any other beginning of one, the
statements that define no table, the closing parenthesis, the constraints of a table, and a
column, which is a name, a type with an optional size, and whatever follows.
-/

namespace Tablewright.Outline

open Text

/-- The parts of a line that defines a column. -/
structure ColumnLine where
  name : String
  declaredType : String
  /-- What follows the type. -/
  constraints : String
  deriving DecidableEq, Repr

/-- What a line is. -/
inductive Line
  /-- The line that opens the definition of a table. -/
  | header (table : String)
  /-- A table definition in another layout. -/
  | unsupportedTable
  /-- A statement that defines no table. -/
  | skippedStatement
  /-- The end of a table definition. -/
  | tableEnd
  /-- A constraint on the table. -/
  | tableConstraint
  | column (line : ColumnLine)
  | other
  deriving DecidableEq, Repr

/-- The table named by a line that consists of `CREATE TABLE IF NOT EXISTS`, a name and an
opening parenthesis. -/
def headerName? (cs : List Char) : Option String := do
  let rest ← keywords? ["create", "table", "if", "not", "exists"] cs
  let rest ← blanks? rest
  let name := rest.takeWhile isNameChar
  match dropBlank (rest.dropWhile isNameChar) with
  | '(' :: rest =>
    if name.isEmpty || !(dropBlank rest).isEmpty then none else some (String.ofList name)
  | _ => none

/-- The beginnings of a table definition. -/
def tablePhrases : List (List String) :=
  [["create", "table"], ["create", "temp", "table"], ["create", "temporary", "table"]]

/-- The beginnings of the statements that define no table. -/
def skippedPhrases : List (List String) :=
  [["create", "index"], ["create", "unique", "index"], ["create", "trigger"],
    ["create", "temp", "trigger"], ["create", "temporary", "trigger"], ["create", "view"], ["drop"]]

/-- The beginnings of a constraint on a table. -/
def constraintPhrases : List (List String) :=
  [["constraint"], ["primary", "key"], ["foreign", "key"], ["unique"], ["check"]]

/-- Whether a text begins with one of the phrases. -/
def beginsWithAny (phrases : List (List String)) (cs : List Char) : Bool :=
  phrases.any fun ks => beginsWith ks cs

/-- An ASCII letter, digit or underscore. -/
def isPlainNameChar (c : Char) : Bool :=
  c.isAlphanum || c == '_'

/-- Take off the size of a type: white space, and a text in parentheses. -/
def size? (cs : List Char) : Option (List Char) :=
  match dropBlank cs with
  | '(' :: rest =>
    match rest.dropWhile (· != ')') with
    | ')' :: rest => some rest
    | _ => none
  | _ => none

/-- The part of a text in front of what follows it. -/
def before (cs rest : List Char) : String :=
  String.ofList (cs.take (cs.length - rest.length))

/-- The parts of a column line. -/
def columnLine? (cs : List Char) : Option ColumnLine := do
  let name := cs.takeWhile isPlainNameChar
  if name.head?.all Char.isDigit then none
  let typed ← blanks? (cs.dropWhile isPlainNameChar)
  let rest := typed.dropWhile Char.isAlpha
  if !typed.head?.any Char.isAlpha || !wordEnds rest then none
  let constraints := (size? rest).getD rest
  return ⟨String.ofList name, before typed constraints, String.ofList constraints⟩

/-- What a line is. -/
def Line.classify (line : String) : Line :=
  let cs := dropBlank line.toList
  match headerName? cs with
  | some table => .header table
  | none =>
    if beginsWithAny tablePhrases cs then .unsupportedTable
    else if beginsWithAny skippedPhrases cs then .skippedStatement
    else if cs.head? = some ')' then .tableEnd
    else if beginsWithAny constraintPhrases cs then .tableConstraint
    else
      match columnLine? cs with
      | some parts => .column parts
      | none => .other

end Tablewright.Outline
