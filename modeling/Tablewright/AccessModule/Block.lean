/-!
# Indented source text

Generated source is a list of lines, each with its depth. Nested blocks are built on their own
and indented when they are put into place, so nothing that emits code keeps track of the depth
it stands at.
-/

namespace Tablewright.AccessModule

/-- A line of source: code at a depth, or nothing. A text with line feeds is written verbatim. -/
inductive Line
  | code (depth : Nat) (text : String)
  | blank
  deriving DecidableEq, Repr

/-- Lines of source. -/
abbrev Block := List Line

namespace Line

/-- One level deeper. -/
def indent : Line → Line
  | code depth text => code (depth + 1) text
  | blank => blank

/-- The line without its line feed. -/
def render : Line → String
  | code depth text => String.ofList (List.replicate (4 * depth) ' ') ++ text
  | blank => ""

end Line

namespace Block

/-- A block of one line. -/
def line (text : String) : Block :=
  [.code 0 text]

/-- A block of one empty line. -/
def blank : Block :=
  [.blank]

/-- Every line one level deeper. -/
def indent (block : Block) : Block :=
  block.map Line.indent

/-- A block one level deeper between two lines. -/
def wrap (opening : String) (block : Block) (closing : String) : Block :=
  line opening ++ block.indent ++ line closing

/-- Blocks with an empty line between any two. -/
def separated : List Block → Block
  | [] => []
  | [block] => block
  | block :: rest => block ++ blank ++ separated rest

/-- The text of a block, a line feed after every line. -/
def render (block : Block) : String :=
  String.join (block.map fun line => line.render ++ "\n")

end Block

end Tablewright.AccessModule
