import Tablewright.Sql.Keyword
import Tablewright.Sql.Token

/-!
# Reading tokens

The grammar of SQL is written as functions that take lexemes off the front of a list. A function
fails where the text is no SQL; it never looks behind the lexemes it is given.
-/

namespace Tablewright.Sql

/-- Something that is read off the front of a list of lexemes. -/
abbrev Grammar := StateT (List Lexeme) Option

namespace Grammar

/-- The token at the front. -/
def front (lexemes : List Lexeme) : Token :=
  match lexemes with
  | [] => .finish
  | l :: _ => l.token

/-- The next token, which stays. -/
def peek : Grammar Token := do
  return front (← get)

/-- Take off the next lexeme. -/
def skip : Grammar Unit :=
  modify (·.drop 1)

/-- Whether a token is the given keyword, in any case. -/
def isKeyword (keyword : String) : Token → Bool
  | .word w => Text.sameName w keyword
  | _ => false

/-- Whether the lexemes begin with the given keywords. -/
def beginWith : List String → List Lexeme → Bool
  | [], _ => true
  | k :: ks, lexemes => isKeyword k (front lexemes) && beginWith ks (lexemes.drop 1)

/-- Take off the given keywords if they come next. -/
def accept (keywords : List String) : Grammar Bool := do
  if beginWith keywords (← get) then
    modify (·.drop keywords.length)
    return true
  return false

/-- Take off the given keywords. -/
def expect (keywords : List String) : Grammar Unit := do
  if !(← accept keywords) then failure

/-- Take off a symbol if it comes next. -/
def acceptSymbol (s : String) : Grammar Bool := do
  if (← peek) = .symbol s then
    skip
    return true
  return false

/-- Take off a symbol. -/
def expectSymbol (s : String) : Grammar Unit := do
  if !(← acceptSymbol s) then failure

/-- The name that a token spells where join words are names. -/
def nameOf? : Token → Option String
  | .word w => if isReserved w then none else some w
  | .quotedName n _ => some n
  | _ => none

/-- A name; a string is a name as well. -/
def name : Grammar String := do
  match ← peek with
  | .string s => skip; return s
  | t =>
    match nameOf? t with
    | some n => skip; return n
    | none => failure

/-- The name that a token spells where join words are none. -/
def plainNameOf? : Token → Option String
  | .word w => if isReserved w || isJoinWord w then none else some w
  | .quotedName n _ => some n
  | .string s => some s
  | _ => none

/-- Items separated by commas, at least one; `fuel` bounds their number. -/
def commaList {α : Type} (item : Grammar α) : Nat → Grammar (List α)
  | 0 => failure
  | fuel + 1 => do
    let first ← item
    if ← acceptSymbol "," then return first :: (← commaList item fuel)
    return [first]

/-- The lexemes that are left. -/
def remaining : Grammar (List Lexeme) :=
  get

/-- A text between parentheses. -/
def parenthesized {α : Type} (inner : Grammar α) : Grammar α := do
  expectSymbol "("
  let a ← inner
  expectSymbol ")"
  return a

end Grammar

end Tablewright.Sql
