/-!
# Tokens of SQL

A script is cut into lexemes. A lexeme has the blanks and comments in front of it (`gap`), its
own text and the token it stands for. The gaps and texts of all lexemes, in order, are the
script; the last lexeme is the end of the script, whose text is empty.
-/

namespace Tablewright.Sql

/-- What a lexeme stands for. -/
inductive Token
  /-- A keyword or a plain name. -/
  | word (text : String)
  /-- A name between double quotes, brackets or backticks. -/
  | quotedName (name : String) (doubleQuotes : Bool)
  | string (text : String)
  | blob (bytes : List UInt8)
  /-- An integer, as written. -/
  | integer (digits : String)
  /-- A number with a decimal point or an exponent, as written. -/
  | decimal (spelling : String)
  /-- A parameter with its sigil. -/
  | parameter (name : String)
  /-- An operator or a punctuation mark. -/
  | symbol (text : String)
  /-- What is no token. -/
  | illegal
  /-- The end of the script. -/
  | finish
  deriving DecidableEq, Repr

/-- A token in its place. -/
structure Lexeme where
  gap : List Char
  text : List Char
  token : Token
  deriving DecidableEq, Repr

/-- The source of consecutive lexemes, without the gap in front of the first. -/
def sourceOf : List Lexeme → List Char
  | [] => []
  | first :: rest => first.text ++ rest.flatMap fun l => l.gap ++ l.text

end Tablewright.Sql
