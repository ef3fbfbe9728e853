import Tablewright.Naming.Words

/-!
# Identifiers for SQL names

The three spellings in which a SQL name appears in generated code: `snakeCase` for functions and
modules, `upperCamelCase` for types and variants, `screamingSnakeCase` for constants. An
identifier begins with a letter, or else with an underscore put in front. `fieldIdentifier` is
the snake-case name made safe against the keywords of the generated language. `isIdentifier`
recognises a plain identifier.
-/

namespace Tablewright.Naming

open Text

/-- The keywords that may be written as raw identifiers. -/
def rawKeywords : List String :=
  ["abstract", "as", "async", "await", "become", "box", "break", "const", "continue", "do",
    "dyn", "else", "enum", "extern", "false", "final", "fn", "for", "gen", "if", "impl", "in",
    "let", "loop", "macro", "match", "mod", "move", "mut", "override", "priv", "pub", "ref",
    "return", "static", "struct", "trait", "true", "try", "type", "typeof", "unsafe", "unsized",
    "use", "virtual", "where", "while", "yield"]

/-- The keywords of paths, which have no raw form. -/
def pathKeywords : List String :=
  ["self", "Self", "super", "crate"]

/-- Whether a text is a plain identifier: a letter or an underscore, then letters, digits and
underscores, and not the underscore alone. -/
def isIdentifier : List Char → Bool
  | [] => false
  | first :: rest =>
    (isAlphabetic first || first == '_') && !(first == '_' && rest.isEmpty) &&
      rest.all fun c => isAlphanumeric c || c == '_'

/-- Put an underscore in front of a text that does not begin with a letter. -/
def guardLeadingDigit : List Char → List Char
  | [] => ['_']
  | first :: rest => if isAlphabetic first then first :: rest else '_' :: first :: rest

/-- A word with its first character in upper case. -/
def capitalize : List Char → List Char
  | [] => []
  | first :: rest => uppercase first ++ rest

/-- The words of a name, joined by underscores. -/
def snakeChars (name : List Char) : List Char :=
  guardLeadingDigit (['_'].intercalate (words name))

/-- The words of a name, each capitalized. -/
def upperCamelChars (name : List Char) : List Char :=
  guardLeadingDigit ((words name).flatMap capitalize)

/-- The snake-case name in upper case. -/
def screamingChars (name : List Char) : List Char :=
  (snakeChars name).flatMap uppercase

/-- `periodicTask` becomes `periodic_task`. -/
def snakeCase (name : String) : String :=
  String.ofList (snakeChars name.toList)

/-- `periodicTask` becomes `PeriodicTask`. -/
def upperCamelCase (name : String) : String :=
  String.ofList (upperCamelChars name.toList)

/-- `periodicTask` becomes `PERIODIC_TASK`. -/
def screamingSnakeCase (name : String) : String :=
  String.ofList (screamingChars name.toList)

/-- Make a snake-case name safe against keywords: a keyword of paths gets an underscore, any
other keyword becomes a raw identifier. -/
def escapeKeyword (identifier : String) : String :=
  if identifier ∈ pathKeywords then identifier ++ "_"
  else if identifier ∈ rawKeywords then "r#" ++ identifier
  else identifier

/-- The snake-case name, usable as the name of a field or a module. -/
def fieldIdentifier (name : String) : String :=
  escapeKeyword (snakeCase name)

end Tablewright.Naming
