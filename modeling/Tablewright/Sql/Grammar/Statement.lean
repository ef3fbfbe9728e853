import Tablewright.Sql.Grammar.Expr
import Tablewright.Sql.Lexer
import Tablewright.Sql.Statement

/-!
# The grammar of statements

`statement` reads one statement up to its semicolon or the end of the script. Definitions keep
the source that the catalog reports: the declared type of a column, the label of a condition and
the text of a table definition from its name on.

It is a part of SQL: tables with their keys, conditions, defaults and foreign keys, indexes, views of
one SELECT, triggers, INSERT and REPLACE of given rows, DELETE and SELECT. What it leaves out, such as
generated columns, conflict clauses, STRICT tables, partial indexes or compound queries, is a syntax
error.
-/

namespace Tablewright.Sql.Grammar

/-! ## Source texts -/

/-- A character that opens a quoted name or string. -/
def opensQuote (c : Char) : Bool :=
  c == '\'' || c == '"' || c == '`' || c == '['

/-- A text that begins with a quoted part, cut down to that part without its quotes. -/
def unquote (cs : List Char) : List Char :=
  match cs with
  | [] => []
  | c :: rest =>
    if !opensQuote c then cs
    else
      let quote := if c == '[' then ']' else c
      match quotedText quote rest with
      | some (inner, _) => inner
      | none => rest

/-- The types that are reported in upper case. -/
def standardTypes : List String :=
  ["ANY", "BLOB", "INT", "INTEGER", "REAL", "TEXT"]

/-- A text that is one quoted part, without its quotes. -/
def unquoteWhole (cs : List Char) : List Char :=
  match cs with
  | c :: rest =>
    if opensQuote c && !rest.isEmpty && !(rest.dropLast.any opensQuote) then rest.dropLast else cs
  | [] => []

/-- The declared type of a column, as it is reported. -/
def reportedType (source : List Char) : String :=
  let whole := if source.length < 3 then source else unquoteWhole source
  let upper := Text.upperAscii (String.ofList whole)
  if 3 ≤ source.length && standardTypes.contains upper then upper
  else String.ofList (unquote whole)

/-- The label of a condition: its source without blanks around it, cut down to a quoted part it
begins with. -/
def conditionLabel (source : List Char) : String :=
  String.ofList (unquote ((source.dropWhile isSpace).reverse.dropWhile isSpace).reverse)

/-! ## Constraints -/

/-- A condition in parentheses, and its label: the name given to it, or else its source. -/
def checkCondition (label : Option String) : Grammar (Expr × String) := do
  expectSymbol "("
  let start ← remaining
  let condition ← expr
  let rest ← remaining
  expectSymbol ")"
  let body := start.take (start.length - rest.length)
  let source := body.flatMap (fun l => l.gap ++ l.text) ++ (rest.head?.map (·.gap)).getD []
  return (condition, label.getD (conditionLabel source))

/-- A list of names in parentheses, none if there is none. -/
def nameList? : Grammar (List String) := do
  if ← acceptSymbol "(" then
    let names ← commaList name (← enoughFuel)
    expectSymbol ")"
    return names
  return []

/-- What becomes of referring rows. -/
def referenceAction : Grammar ReferenceAction := do
  if ← accept ["SET", "NULL"] then return .setNull
  if ← accept ["SET", "DEFAULT"] then return .setDefault
  if ← accept ["CASCADE"] then return .cascade
  if ← accept ["RESTRICT"] then return .restrict
  expect ["NO", "ACTION"]
  return .refuse

/-- The clauses behind the target of a foreign key: the action on deletion is kept. -/
def referenceClauses (action : ReferenceAction) : Nat → Grammar ReferenceAction
  | 0 => failure
  | fuel + 1 => do
    if ← accept ["ON", "DELETE"] then
      let action ← referenceAction
      referenceClauses action fuel
    else if ← accept ["ON", "UPDATE"] then
      let _ ← referenceAction
      referenceClauses action fuel
    else if ← accept ["ON", "INSERT"] then
      let _ ← referenceAction
      referenceClauses action fuel
    else if ← accept ["MATCH"] then
      let _ ← name
      referenceClauses action fuel
    else return action

/-- When a foreign key is tested. -/
def deferral : Grammar Bool := do
  let deferrable ← if ← accept ["NOT", "DEFERRABLE"] then pure true else accept ["DEFERRABLE"]
  if deferrable then
    if !(← accept ["INITIALLY", "IMMEDIATE"]) then
      let _ ← accept ["INITIALLY", "DEFERRED"]
  return deferrable

/-- The target of a foreign key, from behind `REFERENCES`. -/
def reference : Grammar Reference := do
  let table ← name
  let columns ← nameList?
  let action ← referenceClauses .refuse (← enoughFuel)
  return ⟨table, columns, action⟩

/-- A literal, perhaps negated. -/
def literal (negative : Bool) : Grammar Expr := do
  match ← peek with
  | .integer spelling =>
    skip
    match integerLiteral negative spelling with
    | some v => return .literal v
    | none => failure
  | .decimal spelling => skip; return .literal (.real (decimalValue negative spelling.toList))
  | .string s => skip; return negateLiteral (.literal (.text s))
  | .blob bytes => skip; return negateLiteral (.literal (.blob bytes))
  | .word w =>
    match Text.upperAscii w with
    | "NULL" => skip; return negateLiteral .null
    | "CURRENT_DATE" => skip; return negateLiteral (.call "current_date" [])
    | "CURRENT_TIME" => skip; return negateLiteral (.call "current_time" [])
    | "CURRENT_TIMESTAMP" => skip; return negateLiteral (.call "current_timestamp" [])
    | _ => failure
  | _ => failure
where
  negateLiteral (e : Expr) : Expr :=
    if negative then .unary .negate e else e

/-- The text that a name stands for as a default value. -/
def defaultName (w : String) (isQuoted : Bool) : Expr :=
  if !isQuoted && Text.sameName w "true" then .literal (.integer 1)
  else if !isQuoted && Text.sameName w "false" then .literal (.integer 0)
  else .literal (.text w)

/-- The words that stand for the present time. -/
def isClockWord (w : String) : Bool :=
  ["CURRENT_DATE", "CURRENT_TIME", "CURRENT_TIMESTAMP"].contains (Text.upperAscii w)

/-- A default value, from behind `DEFAULT`. -/
def defaultValue : Grammar Expr := do
  if (← peek) = .symbol "(" then parenthesized expr
  else if ← acceptSymbol "+" then literal false
  else if ← acceptSymbol "-" then literal true
  else
    match ← peek with
    | .quotedName n _ => skip; return defaultName n true
    | .word w =>
      if isReserved w || (isJoinWord w && !Text.sameName w "INDEXED") || isClockWord w then
        literal false
      else
        skip
        return defaultName w false
    | _ => literal false

/-- The direction of a key term. -/
def direction : Grammar Bool := do
  if ← accept ["DESC"] then return true
  let _ ← accept ["ASC"]
  return false

/-- A term of a key. -/
def keyTerm : Grammar KeyTerm := do
  let e ← expr
  return ⟨e, ← direction⟩

/-- The terms of a key. -/
def keyTerms : Grammar (List KeyTerm) := do
  commaList keyTerm (← enoughFuel)

/-- The constraints of a column, where `label` is the constraint name given last; the name that
is in force behind them. -/
def columnConstraints (label : Option String) :
    Nat → Grammar (List ColumnConstraint × Option String)
  | 0 => failure
  | fuel + 1 => do
    let more := fun (c : ColumnConstraint) => do
      let (rest, label) ← columnConstraints label fuel
      return (c :: rest, label)
    if ← accept ["CONSTRAINT"] then columnConstraints (some (← name)) fuel
    else if ← accept ["DEFAULT"] then more (.default (← defaultValue))
    else if ← accept ["NULL"] then more .inert
    else if ← deferral then more .inert
    else if ← accept ["NOT", "NULL"] then more .notNull
    else if ← accept ["PRIMARY", "KEY"] then
      let descending ← direction
      more (.primaryKey descending (← accept ["AUTOINCREMENT"]))
    else if ← accept ["UNIQUE"] then more .unique
    else if ← accept ["CHECK"] then
      let (condition, text) ← checkCondition label
      more (.check condition text)
    else if ← accept ["REFERENCES"] then more (.references (← reference))
    else if ← accept ["COLLATE"] then
      match plainNameOf? (← peek) with
      | some collation => skip; more (.collate collation)
      | none => failure
    else return ([], label)

/-- A column of a table definition, and the constraint name in force behind it. -/
def columnDefinition : Grammar (ColumnDefinition × Option String) := do
  let column ← name
  let fuel ← enoughFuel
  let type ← typeSource fuel
  let (constraints, label) ← columnConstraints none fuel
  return (⟨column, reportedType type, constraints⟩, label)

/-- Whether a constraint on the table comes next. -/
def beginsTableConstraint : Grammar Bool := do
  let t ← peek
  return ["CONSTRAINT", "PRIMARY", "UNIQUE", "CHECK", "FOREIGN"].any fun k => isKeyword k t

/-- The columns of a table definition, up to the first constraint on the table. -/
def columnDefinitions : Nat → Grammar (List ColumnDefinition × Option String × Bool)
  | 0 => failure
  | fuel + 1 => do
    let (column, label) ← columnDefinition
    if ← acceptSymbol "," then
      if ← beginsTableConstraint then return ([column], label, true)
      let (rest, result) ← columnDefinitions fuel
      return (column :: rest, result)
    return ([column], label, false)

/-- The constraints on a table, where `label` is the constraint name given last. Commas between
them may be missing. -/
def tableConstraints (label : Option String) : Nat → Grammar (List TableConstraint)
  | 0 => failure
  | fuel + 1 => do
    let more := fun (c : TableConstraint) => do
      if ← acceptSymbol "," then
        if !(← beginsTableConstraint) then failure
        return c :: (← tableConstraints none fuel)
      return c :: (← tableConstraints label fuel)
    if ← accept ["CONSTRAINT"] then
      let label ← name
      if ← acceptSymbol "," then
        if !(← beginsTableConstraint) then failure
        tableConstraints none fuel
      else tableConstraints (some label) fuel
    else if ← accept ["PRIMARY", "KEY"] then
      expectSymbol "("
      let terms ← keyTerms
      let autoIncrement ← accept ["AUTOINCREMENT"]
      expectSymbol ")"
      more (.primaryKey terms autoIncrement)
    else if ← accept ["UNIQUE"] then more (.unique (← parenthesized keyTerms))
    else if ← accept ["CHECK"] then
      let (condition, text) ← checkCondition label
      more (.check condition text)
    else if ← accept ["FOREIGN", "KEY"] then
      let columns ← parenthesized (do commaList name (← enoughFuel))
      expect ["REFERENCES"]
      let target ← reference
      let _ ← deferral
      more (.foreignKey columns target)
    else return []

/-! ## Definitions -/

/-- The name of an object. -/
def objectName : Grammar ObjectName := do
  let (schema, name) ← tableName
  return ⟨schema, name⟩

/-- The name of an object to define. It may not be spelled like the word `IF`, which its stored
definition could not be told from. -/
def newObjectName : Grammar ObjectName := do
  let start ← remaining
  let name ← objectName
  let rest ← remaining
  if (start.take (start.length - rest.length)).getLast?.any (isKeyword "IF" ·.token) then failure
  return name

/-- Whether a definition allows for its object to be there. -/
def ifNotExists : Grammar Bool := do
  if ← accept ["IF"] then
    expect ["NOT", "EXISTS"]
    return true
  return false

/-- Whether a removal allows for its object to be missing. -/
def ifExists : Grammar Bool := do
  if ← accept ["IF"] then
    expect ["EXISTS"]
    return true
  return false

/-- The end of a statement: a semicolon or the end of the script. -/
def statementEnd : Grammar Unit := do
  match ← peek with
  | .symbol ";" => skip
  | .finish => return
  | _ => failure

/-- A table definition, from behind `CREATE TABLE`. -/
def createTable (isTemporary : Bool) : Grammar Statement := do
  let ifNotExists ← ifNotExists
  let first ← remaining
  let table ← newObjectName
  let start := if table.schema.isSome then first.drop 2 else first
  expectSymbol "("
  let fuel ← enoughFuel
  let (columns, label, more) ← columnDefinitions fuel
  let constraints ← if more then tableConstraints label fuel else pure []
  expectSymbol ")"
  let closed ← remaining
  let withoutRowid ← accept ["WITHOUT", "ROWID"]
  let rest ← remaining
  let source :=
    if withoutRowid then
      sourceOf (start.take (start.length - rest.length)) ++ (rest.head?.map (·.gap)).getD []
    else sourceOf (start.take (start.length - closed.length))
  return .createTable ⟨table, isTemporary, ifNotExists, columns, constraints, withoutRowid,
    String.ofList source⟩

/-- An index definition, from behind `INDEX`. -/
def createIndex (isUnique : Bool) : Grammar Statement := do
  let ifNotExists ← ifNotExists
  let index ← newObjectName
  expect ["ON"]
  let table ← name
  let terms ← parenthesized keyTerms
  return .createIndex ⟨index, isUnique, ifNotExists, table, terms⟩

/-- A view definition, from behind `VIEW`. -/
def createView (isTemporary : Bool) : Grammar Statement := do
  let ifNotExists ← ifNotExists
  let view ← newObjectName
  let _ ← nameList?
  expect ["AS"]
  let _ ← query (← enoughFuel)
  return .createView view isTemporary ifNotExists

/-- The rows behind `VALUES`. -/
def valueRows : Grammar (List (List Expr)) := do
  let fuel ← enoughFuel
  commaList (do expectSymbol "("; let items ← expressions fuel; expectSymbol ")"; return items) fuel

/-- A write, from behind its verb. -/
def write (verb : WriteVerb) : Grammar Statement := do
  expect ["INTO"]
  let table ← objectName
  let columns ← nameList?
  expect ["VALUES"]
  return .write verb table (if columns.isEmpty then none else some columns) (← valueRows)

/-- A deletion, from behind `DELETE`. -/
def delete : Grammar Statement := do
  expect ["FROM"]
  let table ← objectName
  let condition ← if ← accept ["WHERE"] then expr else pure .always
  return .delete table condition

/-- An assignment of an update. -/
def assignment : Grammar Unit := do
  let _ ← name
  expectSymbol "="
  let _ ← expr

/-- What a step of a trigger does. -/
def triggerAction : Grammar TriggerStep := do
  if isKeyword "SELECT" (← peek) then return .query (← query (← enoughFuel))
  if ← accept ["INSERT"] then
    let _ ← write .insert
    return .other
  if ← accept ["REPLACE"] then
    let _ ← write .replace
    return .other
  if ← accept ["DELETE"] then
    let _ ← delete
    return .other
  expect ["UPDATE"]
  let _ ← name
  expect ["SET"]
  let _ ← commaList assignment (← enoughFuel)
  if ← accept ["WHERE"] then
    let _ ← expr
  return .other

/-- A step of a trigger, with its semicolon. -/
def triggerStep : Grammar TriggerStep := do
  let step ← triggerAction
  expectSymbol ";"
  return step

/-- The steps of a trigger, up to `END`. -/
def triggerSteps : Nat → Grammar (List TriggerStep)
  | 0 => failure
  | fuel + 1 => do
    let first ← triggerStep
    if ← accept ["END"] then return [first]
    return first :: (← triggerSteps fuel)

/-- When a trigger fires. -/
def triggerTime : Grammar TriggerTime := do
  if ← accept ["AFTER"] then return .after
  if ← accept ["INSTEAD", "OF"] then return .insteadOf
  let _ ← accept ["BEFORE"]
  return .before

/-- The event that fires a trigger. -/
def triggerEvent : Grammar TriggerEvent := do
  if ← accept ["INSERT"] then return .insert
  if ← accept ["DELETE"] then return .delete
  expect ["UPDATE"]
  if ← accept ["OF"] then
    let _ ← commaList name (← enoughFuel)
  return .update

/-- A trigger definition, from behind `TRIGGER`. -/
def createTrigger (isTemporary : Bool) : Grammar Statement := do
  let ifNotExists ← ifNotExists
  let trigger ← newObjectName
  let time ← triggerTime
  let event ← triggerEvent
  expect ["ON"]
  let table ← objectName
  let _ ← accept ["FOR", "EACH", "ROW"]
  let condition ← if ← accept ["WHEN"] then expr else pure .always
  expect ["BEGIN"]
  let steps ← triggerSteps (← enoughFuel)
  return .createTrigger ⟨trigger, isTemporary, ifNotExists, time, event, table, condition, steps⟩

/-- A kind of objects. -/
def objectKind : Grammar ObjectKind := do
  if ← accept ["TABLE"] then return .table
  if ← accept ["INDEX"] then return .index
  if ← accept ["VIEW"] then return .view
  expect ["TRIGGER"]
  return .trigger

/-- A removal, from behind `DROP`. -/
def drop : Grammar Statement := do
  let kind ← objectKind
  let ifExists ← ifExists
  return .drop kind (← objectName) ifExists

/-- A definition, from behind `CREATE`. -/
def create : Grammar Statement := do
  if ← accept ["UNIQUE", "INDEX"] then createIndex true
  else if ← accept ["INDEX"] then createIndex false
  else
    let isTemporary ← if ← accept ["TEMP"] then pure true else accept ["TEMPORARY"]
    if ← accept ["TABLE"] then createTable isTemporary
    else if ← accept ["VIEW"] then createView isTemporary
    else
      expect ["TRIGGER"]
      createTrigger isTemporary

/-- A statement up to its end. -/
def command : Grammar Statement := do
  if ← accept ["CREATE"] then create
  else if ← accept ["DROP"] then drop
  else if ← accept ["INSERT"] then write .insert
  else if ← accept ["REPLACE"] then write .replace
  else if ← accept ["DELETE"] then delete
  else return .query (← query (← enoughFuel))

/-- A statement with its end. -/
def statement : Grammar Statement := do
  let s ← command
  statementEnd
  return s

end Tablewright.Sql.Grammar
