import Tablewright.Sql.Expr
import Tablewright.Sql.Grammar.Basic
import Tablewright.Sql.Grammar.Number

/-!
# The grammar of expressions and queries

Operators bind in twelve levels, from `OR` to the signs in front of an operand. `exprAt` reads an
expression whose operators bind at least as tightly as a level; `fuel` bounds the depth of the
recursion and the number of operators on a level.
-/

namespace Tablewright.Sql.Grammar

/-! ## Levels -/

/-- The operators on two operands that are symbols, with their levels. -/
def symbolOperators : List (String × Nat × BinaryOp) :=
  [("=", 4, .equal), ("==", 4, .equal), ("<>", 4, .notEqual), ("!=", 4, .notEqual),
    ("<", 5, .less), ("<=", 5, .atMost), (">", 5, .greater), (">=", 5, .atLeast),
    ("&", 7, .bitAnd), ("|", 7, .bitOr), ("<<", 7, .shiftLeft), (">>", 7, .shiftRight),
    ("+", 8, .add), ("-", 8, .subtract), ("*", 9, .multiply), ("/", 9, .divide),
    ("%", 9, .remainder), ("||", 10, .concat)]

/-- The operators that are written between operands and read as calls. -/
def callWords : List (String × String) :=
  [("LIKE", "like"), ("GLOB", "glob"), ("REGEXP", "regexp"), ("MATCH", "match")]

/-- The level of comparisons for equality and of the words beside them. -/
def equalityLevel : Nat := 4

/-- The level of the signs in front of an operand. -/
def signLevel : Nat := 12

/-- An expression, or its negation. -/
def negateIf (negated : Bool) (e : Expr) : Expr :=
  if negated then .unary .not e else e

/-- The names that make up a type. -/
def typeWords : Nat → Grammar (List Lexeme)
  | 0 => failure
  | fuel + 1 => do
    match (← remaining).head? with
    | none => return []
    | some l =>
      if isKeyword "GENERATED" l.token || (plainNameOf? l.token).isNone then return []
      skip
      return l :: (← typeWords fuel)

/-- A number with an optional sign. -/
def signedNumber : Grammar Unit := do
  if !(← acceptSymbol "+") then
    let _ ← acceptSymbol "-"
  match ← peek with
  | .integer _ => skip
  | .decimal _ => skip
  | _ => failure

/-- The source of a type, empty if there is none. -/
def typeSource (fuel : Nat) : Grammar (List Char) := do
  let start ← remaining
  let words ← typeWords fuel
  if words.isEmpty then return []
  if ← acceptSymbol "(" then
    signedNumber
    if ← acceptSymbol "," then signedNumber
    expectSymbol ")"
  return sourceOf (start.take (start.length - (← remaining).length))

/-- What a raised error does. -/
def raiseKind : Grammar RaiseKind := do
  if ← accept ["ROLLBACK"] then return .rollback
  if ← accept ["ABORT"] then return .abort
  expect ["FAIL"]
  return .fail

/-- The alias of a source or of a result column, if one follows. -/
def aliasName? : Grammar (Option String) := do
  if ← accept ["AS"] then return some (← name)
  match plainNameOf? (← peek) with
  | some a => skip; return some a
  | none => return none

/-- The name of a table, perhaps qualified by its schema. -/
def tableName : Grammar (Option String × String) := do
  let first ← name
  if ← acceptSymbol "." then return (some first, ← name)
  return (none, first)

/-- The word in front of a joined source, and whether it makes a left join. -/
def joinWord : Grammar (Option Bool) := do
  if ← acceptSymbol "," then return some false
  if ← accept ["JOIN"] then return some false
  if ← accept ["INNER", "JOIN"] then return some false
  if ← accept ["CROSS", "JOIN"] then return some false
  if ← accept ["LEFT", "JOIN"] then return some true
  if ← accept ["LEFT", "OUTER", "JOIN"] then return some true
  return none

mutual

/-- An expression whose operators bind at least as tightly as `level`. -/
def exprAt (fuel level : Nat) : Grammar Expr :=
  match fuel with
  | 0 => failure
  | fuel + 1 => do operators fuel level (← operand fuel)

/-- What follows an expression on the left. -/
def operators (fuel level : Nat) (left : Expr) : Grammar Expr :=
  match fuel with
  | 0 => failure
  | fuel + 1 => do
    match ← peek with
    | .symbol s =>
      if (s == "->" || s == "->>") && level ≤ 10 then
        skip
        operators fuel level (.call s [left, ← exprAt fuel 11])
      else
        match symbolOperators.find? (·.1 == s) with
        | some (_, binding, op) =>
          if level ≤ binding then
            skip
            operators fuel level (.binary op left (← exprAt fuel (binding + 1)))
          else return left
        | none => return left
    | .word w =>
      if level ≤ 1 && Text.sameName w "OR" then
        skip
        operators fuel level (.binary .or left (← exprAt fuel 2))
      else if level ≤ 2 && Text.sameName w "AND" then
        skip
        operators fuel level (.binary .and left (← exprAt fuel 3))
      else if level ≤ 11 && Text.sameName w "COLLATE" then
        skip
        match plainNameOf? (← peek) with
        | some c => skip; operators fuel level (.collate left c)
        | none => failure
      else if level ≤ equalityLevel then
        match ← equality fuel left with
        | some e => operators fuel level e
        | none => return left
      else return left
    | _ => return left

/-- The operators that are words and bind like a comparison for equality. -/
def equality (fuel : Nat) (left : Expr) : Grammar (Option Expr) :=
  match fuel with
  | 0 => failure
  | fuel + 1 => do
    if ← accept ["ISNULL"] then return some (.unary .isNull left)
    if ← accept ["NOTNULL"] then return some (.unary .notNull left)
    if ← accept ["NOT", "NULL"] then return some (.unary .notNull left)
    if ← accept ["IS", "NOT", "DISTINCT", "FROM"] then
      return some (.binary .same left (← exprAt fuel 5))
    if ← accept ["IS", "DISTINCT", "FROM"] then
      return some (.binary .distinct left (← exprAt fuel 5))
    if ← accept ["IS", "NOT"] then return some (.binary .distinct left (← exprAt fuel 5))
    if ← accept ["IS"] then return some (.binary .same left (← exprAt fuel 5))
    let next := front ((← get).drop 1)
    let negated := isKeyword "NOT" (← peek) &&
      ("IN" :: "BETWEEN" :: callWords.map (·.1)).any fun w => isKeyword w next
    if negated then skip
    if ← accept ["BETWEEN"] then
      let low ← exprAt fuel 3
      expect ["AND"]
      let high ← exprAt fuel 5
      return some (negateIf negated
        (.binary .and (.binary .atLeast left low) (.binary .atMost left high)))
    if ← accept ["IN"] then return some (negateIf negated (← membership fuel left))
    let word ← peek
    match callWords.find? fun w => isKeyword w.1 word with
    | none => return none
    | some (_, function) =>
      skip
      let pattern ← exprAt fuel 5
      if ← accept ["ESCAPE"] then
        return some (negateIf negated (.call function [pattern, left, ← exprAt fuel 5]))
      return some (negateIf negated (.call function [pattern, left]))

/-- What stands behind `IN`: a list, a query or a table. -/
def membership (fuel : Nat) (left : Expr) : Grammar Expr :=
  match fuel with
  | 0 => failure
  | fuel + 1 => do
    if ← acceptSymbol "(" then
      if isKeyword "SELECT" (← peek) then
        let q ← query fuel
        expectSymbol ")"
        return .inQuery left q
      return .inList left (← arguments fuel)
    let (_, table) ← tableName
    return .inQuery left (.select [.all] [.table table table false .always] .always [])

/-- The rest of a list of expressions, up to the closing parenthesis. -/
def arguments (fuel : Nat) : Grammar (List Expr) :=
  match fuel with
  | 0 => failure
  | fuel + 1 => do
    if ← acceptSymbol ")" then return []
    let items ← expressions fuel
    expectSymbol ")"
    return items

/-- Expressions separated by commas. -/
def expressions (fuel : Nat) : Grammar (List Expr) :=
  match fuel with
  | 0 => failure
  | fuel + 1 => do
    let first ← exprAt fuel 0
    if ← acceptSymbol "," then return first :: (← expressions fuel)
    return [first]

/-- An operand with the signs in front of it. -/
def operand (fuel : Nat) : Grammar Expr :=
  match fuel with
  | 0 => failure
  | fuel + 1 => do
    let t ← peek
    let next := front ((← get).drop 1)
    match t with
    | .integer spelling =>
      skip
      match integerLiteral false spelling with
      | some v => return .literal v
      | none => failure
    | .decimal spelling => skip; return .literal (.real (decimalValue false spelling.toList))
    | .blob bytes => skip; return .literal (.blob bytes)
    | .parameter p => skip; return .parameter p
    | .string s =>
      if next = .symbol "." then column fuel
      else
        skip
        return .literal (.text s)
    | .quotedName n doubleQuotes =>
      if next = .symbol "." || next = .symbol "(" then column fuel
      else
        skip
        return .name none n doubleQuotes
    | .symbol s =>
      skip
      match s with
      | "-" => return .unary .negate (← exprAt fuel signLevel)
      | "+" => return .unary .plus (← exprAt fuel signLevel)
      | "~" => return .unary .invert (← exprAt fuel signLevel)
      | "(" =>
        if isKeyword "SELECT" (← peek) then
          let q ← query fuel
          expectSymbol ")"
          return .subquery q
        let items ← expressions fuel
        expectSymbol ")"
        match items with
        | [e] => return e
        | items => return .row items
      | _ => failure
    | .word w =>
      match Text.upperAscii w with
      | "NOT" => skip; return .unary .not (← exprAt fuel 3)
      | "NULL" => skip; return .null
      | "EXISTS" =>
        skip
        expectSymbol "("
        let q ← query fuel
        expectSymbol ")"
        return .exists q
      | "CASE" => skip; choice fuel
      | "CAST" =>
        skip
        expectSymbol "("
        let e ← exprAt fuel 0
        expect ["AS"]
        let type ← typeSource fuel
        expectSymbol ")"
        return .cast e (String.ofList type)
      | "RAISE" =>
        skip
        expectSymbol "("
        if ← accept ["IGNORE"] then
          expectSymbol ")"
          return .raise .ignore .null
        let kind ← raiseKind
        expectSymbol ","
        let message ← exprAt fuel 0
        expectSymbol ")"
        return .raise kind message
      | "CURRENT_DATE" => skip; return .call "current_date" []
      | "CURRENT_TIME" => skip; return .call "current_time" []
      | "CURRENT_TIMESTAMP" => skip; return .call "current_timestamp" []
      | _ => column fuel
    | _ => failure

/-- A column, perhaps qualified, or a call. -/
def column (fuel : Nat) : Grammar Expr :=
  match fuel with
  | 0 => failure
  | fuel + 1 => do
    let doubleQuotes := (← peek) matches .quotedName _ true
    let first ← name
    if ← acceptSymbol "(" then
      if ← acceptSymbol "*" then
        expectSymbol ")"
        return .call first []
      if !(← accept ["DISTINCT"]) then
        let _ ← accept ["ALL"]
      return .call first (← arguments fuel)
    if ← acceptSymbol "." then
      let second ← name
      if ← acceptSymbol "." then return .name (some second) (← name) false
      return .name (some first) second false
    return .name none first doubleQuotes

/-- A `CASE`, from behind the word. -/
def choice (fuel : Nat) : Grammar Expr :=
  match fuel with
  | 0 => failure
  | fuel + 1 => do
    let subject ←
      if isKeyword "WHEN" (← peek) then pure none else (do return some (← exprAt fuel 0))
    let branches ← whenBranches fuel subject
    if branches.isEmpty then failure
    let otherwise ← if ← accept ["ELSE"] then exprAt fuel 0 else pure .null
    expect ["END"]
    return .choice (branches.map (·.1)) (branches.map (·.2)) otherwise

/-- The branches of a `CASE`. -/
def whenBranches (fuel : Nat) (subject : Option Expr) : Grammar (List (Expr × Expr)) :=
  match fuel with
  | 0 => failure
  | fuel + 1 => do
    if !(← accept ["WHEN"]) then return []
    let test ← exprAt fuel 0
    expect ["THEN"]
    let result ← exprAt fuel 0
    let condition :=
      match subject with
      | some s => .binary .equal s test
      | none => test
    return (condition, result) :: (← whenBranches fuel subject)

/-- A query. -/
def query (fuel : Nat) : Grammar Query :=
  match fuel with
  | 0 => failure
  | fuel + 1 => do
    expect ["SELECT"]
    let columns ← resultColumns fuel
    let sources ←
      if ← accept ["FROM"] then
        let first ← source fuel false
        pure (first :: (← joined fuel))
      else pure []
    let condition ← if ← accept ["WHERE"] then exprAt fuel 0 else pure .always
    let order ← if ← accept ["ORDER", "BY"] then orderTerms fuel else pure []
    return .select columns sources condition order

/-- The columns of a result. -/
def resultColumns (fuel : Nat) : Grammar (List ResultColumn) :=
  match fuel with
  | 0 => failure
  | fuel + 1 => do
    let first ← resultColumn fuel
    if ← acceptSymbol "," then return first :: (← resultColumns fuel)
    return [first]

/-- A column of a result. -/
def resultColumn (fuel : Nat) : Grammar ResultColumn :=
  match fuel with
  | 0 => failure
  | fuel + 1 => do
    if ← acceptSymbol "*" then return .all
    let e ← exprAt fuel 0
    let _ ← aliasName?
    match e with
    | .call f [] => if Text.sameName f "count" then return .count else return .value e
    | e => return .value e

/-- A source with its alias and, if it is joined, its condition. -/
def source (fuel : Nat) (isLeft : Bool) : Grammar Source :=
  match fuel with
  | 0 => failure
  | fuel + 1 => do
    let (_, table) ← tableName
    let tableAlias := (← aliasName?).getD table
    let on ← if ← accept ["ON"] then exprAt fuel 0 else pure .always
    return .table table tableAlias isLeft on

/-- The sources joined to the first. -/
def joined (fuel : Nat) : Grammar (List Source) :=
  match fuel with
  | 0 => failure
  | fuel + 1 => do
    match ← joinWord with
    | none => return []
    | some isLeft =>
      let first ← source fuel isLeft
      return first :: (← joined fuel)

/-- The terms of an order. -/
def orderTerms (fuel : Nat) : Grammar (List OrderTerm) :=
  match fuel with
  | 0 => failure
  | fuel + 1 => do
    let e ← exprAt fuel 0
    let descending ← accept ["DESC"]
    if !descending then
      let _ ← accept ["ASC"]
    let term : OrderTerm := .by e descending
    if ← acceptSymbol "," then return term :: (← orderTerms fuel)
    return [term]

end

/-- Enough fuel for the lexemes that are left. -/
def enoughFuel : Grammar Nat := do
  return 6 * (← remaining).length + 12

/-- An expression. -/
def expr : Grammar Expr := do
  exprAt (← enoughFuel) 0

end Tablewright.Sql.Grammar
