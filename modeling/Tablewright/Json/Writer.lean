import Tablewright.Json.Value
import Tablewright.Text.Quoted

/-!
# Writing JSON

A value is laid out over several lines, two spaces to a level, one item or member to a line; an
empty array or object stays on its line. In strings only the quote, the backslash and the
control characters below the space are escaped.
-/

namespace Tablewright.Json

/-- A control character as four hexadecimal digits. -/
def unicodeEscape (c : Char) : String :=
  let digits := Text.hex c.toNat
  "\\u" ++ String.ofList (List.replicate (4 - digits.length) '0') ++ digits

/-- A character as it is written in a string. -/
def writeChar (c : Char) : String :=
  match c with
  | '"' => "\\\""
  | '\\' => "\\\\"
  | '\x08' => "\\b"
  | '\x0c' => "\\f"
  | '\n' => "\\n"
  | '\r' => "\\r"
  | '\t' => "\\t"
  | c => if c.toNat < 0x20 then unicodeEscape c else c.toString

/-- A text between quotes. -/
def writeText (s : String) : String :=
  "\"" ++ String.join (s.toList.map writeChar) ++ "\""

/-- A new line at the given level. -/
def newline (level : Nat) : String :=
  "\n" ++ String.ofList (List.replicate (2 * level) ' ')

/-- Items between brackets, each on a line of its own one level deeper. -/
def bracketed (opening closing : String) (level : Nat) (items : List String) : String :=
  if items.isEmpty then opening ++ closing
  else
    opening ++ newline (level + 1) ++ String.intercalate ("," ++ newline (level + 1)) items ++
      newline level ++ closing

mutual

/-- A value at the given level. -/
def pretty (level : Nat) : Json → String
  | null => "null"
  | bool b => if b then "true" else "false"
  | number spelling => spelling
  | string text => writeText (text.getD "")
  | array items => bracketed "[" "]" level (prettyItems (level + 1) items)
  | object members => bracketed "\x7b" "\x7d" level (prettyMembers (level + 1) members)

/-- The items of an array. -/
def prettyItems (level : Nat) : List Json → List String
  | [] => []
  | item :: rest => pretty level item :: prettyItems level rest

/-- The members of an object. -/
def prettyMembers (level : Nat) : List (Option String × Json) → List String
  | [] => []
  | member :: rest => prettyMember level member :: prettyMembers level rest

/-- A member of an object. -/
def prettyMember (level : Nat) : Option String × Json → String
  | (key, value) => writeText (key.getD "") ++ ": " ++ pretty level value

end

/-- The text of a value. -/
def write (value : Json) : String :=
  pretty 0 value

end Tablewright.Json
