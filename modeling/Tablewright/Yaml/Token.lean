import Tablewright.Text.Ascii

/-!
# Tokens of YAML

The tokens that a YAML text is made of, and the place in a text where a token is read. Blocks have
no brackets in the text; the tokens that begin and end them stand for its indentation.
-/

namespace Tablewright.Yaml

/-- A token. -/
inductive Token
  | version (major minor : Nat)
  | tagHandle (handle expansion : String)
  | documentStart
  | documentEnd
  | blockSequenceStart
  | blockMappingStart
  | blockEnd
  | flowSequenceStart
  | flowSequenceEnd
  | flowMappingStart
  | flowMappingEnd
  | blockEntry
  | flowEntry
  | key
  | value
  | reference (name : String)
  | anchor (name : String)
  /-- A tag; the handle is empty if the suffix is all of it. -/
  | tag (handle suffix : String)
  | scalar (text : String) (isPlain : Bool)
  | finish
  deriving DecidableEq, Repr

/-! ## Characters -/

/-- A space or a tab. -/
def isBlank (c : Char) : Bool :=
  c == ' ' || c == '\t'

/-- A line break. -/
def isBreak (c : Char) : Bool :=
  c == '\r' || c == '\n' || c == '\u0085' || c == '\u2028' || c == '\u2029'

/-- Whether a text ends or goes on with a blank or a line break. -/
def endsWord (cs : List Char) : Bool :=
  cs.head?.all fun c => isBlank c || isBreak c

/-- A character of a name. -/
def isNameChar (c : Char) : Bool :=
  c.isAlphanum || c == '_' || c == '-'

/-- A bracket or comma of a flow collection. -/
def isFlowIndicator (c : Char) : Bool :=
  c == ',' || c == '[' || c == ']' || c == '\x7b' || c == '\x7d'

/-- A character that a YAML text may have. -/
def isAllowed (c : Char) : Bool :=
  let n := c.toNat
  n == 9 || n == 10 || n == 13 || (0x20 ≤ n && n ≤ 0x7e) || n == 0x85 ||
    (0xa0 ≤ n && n ≤ 0xfffd) || 0x10000 ≤ n

/-! ## Places -/

/-- A place in a text. -/
structure Cursor where
  /-- The text from here on. -/
  rest : List Char
  line : Nat
  column : Nat
  /-- The number of characters before. -/
  index : Nat
  deriving DecidableEq, Repr

namespace Cursor

/-- The beginning of a text. -/
def start (cs : List Char) : Cursor :=
  ⟨cs, 0, 0, 0⟩

/-- The place so many characters later on the line. -/
def skip (c : Cursor) (n : Nat) : Cursor :=
  ⟨c.rest.drop n, c.line, c.column + n, c.index + n⟩

/-- The place behind a line break. -/
def skipBreak (c : Cursor) : Cursor :=
  match c.rest with
  | '\r' :: '\n' :: rest => ⟨rest, c.line + 1, 0, c.index + 2⟩
  | _ :: rest => ⟨rest, c.line + 1, 0, c.index + 1⟩
  | [] => c

/-- The next character. -/
def next? (c : Cursor) : Option Char :=
  c.rest.head?

/-- Whether a blank comes next. -/
def atBlank (c : Cursor) : Bool :=
  c.next?.any isBlank

/-- Whether a line break comes next. -/
def atBreak (c : Cursor) : Bool :=
  c.next?.any isBreak

/-- Whether three characters that begin or end a document come next. -/
def atMarker (c : Cursor) (marker : Char) : Bool :=
  c.column == 0 && c.rest.take 3 == [marker, marker, marker] && endsWord (c.rest.drop 3)

/-- Whether the beginning or the end of a document comes next. -/
def atDocumentMarker (c : Cursor) : Bool :=
  c.atMarker '-' || c.atMarker '.'

/-- The place behind the blanks here. -/
def skipBlanks (c : Cursor) : Cursor :=
  c.skip (c.rest.takeWhile isBlank).length

/-- The place at the end of the line. -/
def skipLine (c : Cursor) : Cursor :=
  c.skip (c.rest.takeWhile fun ch => !isBreak ch).length

end Cursor

/-- The text that a line break at the beginning of a text stands for. -/
def breakText (cs : List Char) : List Char :=
  match cs with
  | [] => []
  | c :: _ => if c == '\u2028' || c == '\u2029' then [c] else if isBreak c then ['\n'] else []

end Tablewright.Yaml
