import Tablewright.Json.Reader
import Tablewright.Sql.Token

/-!
# Cutting a script into tokens

`lex` cuts a script into lexemes. Blanks are space, tab, line feed, form feed, carriage return
and the byte order mark; a comment runs from `--` to the end of its line or from `/*` to `*/`,
an unclosed one to the end of the script. A name begins with a letter, an underscore or a
character outside ASCII. A script ends at its first NUL.
-/

namespace Tablewright.Sql

/-! ## Gaps -/

/-- Where in a gap the lexer stands. -/
inductive GapMode
  | blanks
  | lineComment
  | blockComment
  deriving DecidableEq, Repr

/-- A blank between tokens. -/
def isSpace (c : Char) : Bool :=
  c == ' ' || c == '\t' || c == '\n' || c == '\x0c' || c == '\r' || c == '\ufeff'

/-- What follows the blanks and comments at the beginning of a text. -/
def afterGap : GapMode → List Char → List Char
  | _, [] => []
  | .blanks, '-' :: '-' :: rest => afterGap .lineComment rest
  | .blanks, '/' :: '*' :: c :: rest => afterGap .blockComment (c :: rest)
  | .blanks, c :: rest => if isSpace c then afterGap .blanks rest else c :: rest
  | .lineComment, c :: rest => afterGap (if c == '\n' then .blanks else .lineComment) rest
  | .blockComment, '*' :: '/' :: rest => afterGap .blanks rest
  | .blockComment, _ :: rest => afterGap .blockComment rest

/-! ## Tokens -/

/-- A character that a name may begin with. -/
def isNameStart (c : Char) : Bool :=
  c.isAlpha || c == '_' || 0x80 ≤ c.toNat

/-- A character that a name may go on with. -/
def isNameChar (c : Char) : Bool :=
  isNameStart c || c.isDigit || c == '$'

/-- A hexadecimal digit. -/
def isHexDigit (c : Char) : Bool :=
  (Json.hexDigit? c).isSome

/-- The text up to the closing quote and what follows the quote; a doubled quote stands for
itself. -/
def quotedText (quote : Char) : List Char → Option (List Char × List Char)
  | [] => none
  | [c] => if c == quote then some ([], []) else none
  | c :: d :: rest =>
    if c == quote then
      if d == quote then (quotedText quote rest).map fun r => (quote :: r.1, r.2)
      else some ([], d :: rest)
    else (quotedText quote (d :: rest)).map fun r => (c :: r.1, r.2)

/-- The text up to the closing bracket and what follows it. -/
def bracketedText (cs : List Char) : Option (List Char × List Char) :=
  match cs.dropWhile (· != ']') with
  | [] => none
  | _ :: rest => some (cs.takeWhile (· != ']'), rest)

/-- The bytes of an even number of hexadecimal digits. -/
def hexBytes? : List Char → Option (List UInt8)
  | [] => some []
  | [_] => none
  | a :: b :: rest => do
    let a ← Json.hexDigit? a
    let b ← Json.hexDigit? b
    return UInt8.ofNat (16 * a + b) :: (← hexBytes? rest)

/-- What follows the exponent of a number, if one begins here. -/
def afterExponent : List Char → List Char
  | e :: rest =>
    let digits :=
      match rest with
      | '+' :: r => r
      | '-' :: r => r
      | r => r
    if (e == 'e' || e == 'E') && digits.head?.any Char.isDigit then digits.dropWhile Char.isDigit
    else e :: rest
  | [] => []

/-- A number: an integer in hexadecimal or decimal digits, or a decimal with a point or an
exponent. A name may not follow directly. -/
def numberToken (cs : List Char) : Token × List Char :=
  let hexadecimal :=
    match cs with
    | '0' :: x :: d :: _ => (x == 'x' || x == 'X') && isHexDigit d
    | _ => false
  let (rest, isInteger) :=
    if hexadecimal then ((cs.drop 2).dropWhile isHexDigit, true)
    else
      let whole := cs.dropWhile Char.isDigit
      let fraction :=
        match whole with
        | '.' :: r => r.dropWhile Char.isDigit
        | r => r
      let rest := afterExponent fraction
      (rest, rest.length == whole.length)
  let spelling := String.ofList (cs.take (cs.length - rest.length))
  if rest.head?.any isNameChar then (.illegal, rest.dropWhile isNameChar)
  else (if isInteger then .integer spelling else .decimal spelling, rest)

/-- The operators and punctuation marks, longer ones before their beginnings. -/
def symbols : List String :=
  ["->>", "->", "||", "<=", "<>", "<<", ">=", ">>", "==", "!=", "(", ")", ";", ",", "+", "-", "*",
    "/", "%", "=", "<", ">", "|", "&", "~", "."]

/-- A parameter: a sigil, then a name or, behind a question mark, a number or nothing. -/
def parameterToken (sigil : Char) (cs : List Char) : Token × List Char :=
  let belongs := if sigil == '?' then Char.isDigit else isNameChar
  let name := cs.takeWhile belongs
  if name.isEmpty && sigil != '?' then (.illegal, cs)
  else (.parameter (String.ofList (sigil :: name)), cs.dropWhile belongs)

/-- The first token of a text that does not begin with a blank or a comment, and what follows
it. -/
def token : List Char → Token × List Char
  | [] => (.finish, [])
  | c :: rest =>
    if c == '\'' then
      match quotedText c rest with
      | some (text, rest) => (.string (String.ofList text), rest)
      | none => (.illegal, [])
    else if c == '"' || c == '`' then
      match quotedText c rest with
      | some (name, rest) => (.quotedName (String.ofList name) (c == '"'), rest)
      | none => (.illegal, [])
    else if c == '[' then
      match bracketedText rest with
      | some (name, rest) => (.quotedName (String.ofList name) false, rest)
      | none => (.illegal, [])
    else if (c == 'x' || c == 'X') && rest.head? == some '\'' then
      match quotedText '\'' (rest.drop 1) with
      | some (digits, rest) =>
        ((hexBytes? digits).elim .illegal .blob, rest)
      | none => (.illegal, [])
    else if c.isDigit || (c == '.' && rest.head?.any Char.isDigit) then numberToken (c :: rest)
    else if isNameStart c then
      (.word (String.ofList (c :: rest.takeWhile isNameChar)), rest.dropWhile isNameChar)
    else if c == '?' || c == ':' || c == '@' || c == '$' then parameterToken c rest
    else
      match symbols.find? fun s => s.toList.isPrefixOf (c :: rest) with
      | some s => (.symbol s, (c :: rest).drop s.length)
      | none => (.illegal, rest)

/-- The lexemes of a text; `fuel` bounds their number. -/
def lexFrom : Nat → List Char → List Lexeme
  | 0, _ => []
  | fuel + 1, cs =>
    let start := afterGap .blanks cs
    let gap := cs.take (cs.length - start.length)
    let (t, rest) := token start
    let lexeme : Lexeme := ⟨gap, start.take (start.length - rest.length), t⟩
    if t = .finish then [lexeme] else lexeme :: lexFrom fuel rest

/-- The lexemes of a script. -/
def lex (script : String) : List Lexeme :=
  let cs := script.toList.takeWhile (· != '\x00')
  lexFrom (cs.length + 1) cs

end Tablewright.Sql
