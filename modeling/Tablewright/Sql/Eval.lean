import Tablewright.Sql.Arithmetic
import Tablewright.Sql.Failure
import Tablewright.Sql.Resolve

/-!
# Evaluation of expressions and queries

`Expr.eval` is the value of an expression for the rows in scope, `Query.eval` the rows that a
query selects. Logic has three values, a comparison with NULL is NULL, and a query reads its
sources from left to right, each row of the sources before being joined with the rows of the
next that meet its condition.
-/

namespace Tablewright.Sql

/-- What an expression can see. -/
structure Environment where
  scopes : Scopes
  /-- The rows of a table, and the row of NULLs that a left join puts in for none. -/
  table? : String → Option (List Frame × Frame)
  parameter : String → Value

namespace Environment

/-- The environment inside of a query with the given frames. -/
def inside (env : Environment) (frames : List Frame) : Environment :=
  { env with scopes := frames :: env.scopes }

end Environment

/-- The affinity that an expression brings into a comparison. -/
def Expr.affinity? (scopes : Scopes) : Expr → Option Affinity
  | .name q n _ => (findName? q n scopes).map (·.affinity)
  | .cast _ type => some (.ofDeclaredType type)
  | .collate e _ => e.affinity? scopes
  | _ => none

/-- The truth of a comparison of two values, unknown if one is NULL. -/
def compared (a : Affinity) (test : Ordering → Bool) (x y : Value) : Value :=
  if x.isNull || y.isNull then .null else .ofTruth (some (test (compareUnder a x y)))

/-- Whether two values are the same, NULL being the same as NULL. -/
def indistinct (a : Affinity) (x y : Value) : Bool :=
  if x.isNull || y.isNull then x.isNull && y.isNull else compareUnder a x y == .eq

/-- The value of an operator on two operands. -/
def BinaryOp.apply (op : BinaryOp) (a : Affinity) (x y : Value) : Except Failure Value :=
  match op with
  | .or => .ok (.ofTruth (Truth.or x.truth y.truth))
  | .and => .ok (.ofTruth (Truth.and x.truth y.truth))
  | .equal => .ok (compared a (· == .eq) x y)
  | .notEqual => .ok (compared a (· != .eq) x y)
  | .same => .ok (.ofTruth (some (indistinct a x y)))
  | .distinct => .ok (.ofTruth (some (!indistinct a x y)))
  | .less => .ok (compared a (· == .lt) x y)
  | .atMost => .ok (compared a (· != .gt) x y)
  | .greater => .ok (compared a (· == .gt) x y)
  | .atLeast => .ok (compared a (· != .lt) x y)
  | .add => .ok (x.add y)
  | .subtract => .ok (x.subtract y)
  | .multiply => .ok (x.multiply y)
  | .divide => .ok (x.divide y)
  | .remainder => .ok (x.remainder y)
  | .concat => .ok (x.concat y)
  | .bitAnd | .bitOr | .shiftLeft | .shiftRight => .error .invalid

/-- The value of an operator on one operand. -/
def UnaryOp.apply (op : UnaryOp) (v : Value) : Except Failure Value :=
  match op with
  | .not => .ok (.ofTruth (v.truth.map (!·)))
  | .negate => .ok v.negate
  | .plus => .ok v
  | .invert => .error .invalid
  | .isNull => .ok (.ofTruth (some v.isNull))
  | .notNull => .ok (.ofTruth (some !v.isNull))

/-- The truth of a membership: unknown if nothing is equal and something is NULL. -/
def member (a : Affinity) (v : Value) (items : List Value) : Value :=
  if items.isEmpty then .ofTruth (some false)
  else if v.isNull then .null
  else if items.any fun x => !x.isNull && (a.convert v).compare (a.convert x) == .eq then
    .ofTruth (some true)
  else if items.any Value.isNull then .null
  else .ofTruth (some false)

/-- The affinity under which a membership compares. -/
def memberAffinity : Option Affinity → Affinity
  | none => .blob
  | some .real => .numeric
  | some a => a

/-- The name of a value's class. -/
def typeName : Value → String
  | .null => "null"
  | .integer _ => "integer"
  | .real _ => "real"
  | .text _ => "text"
  | .blob _ => "blob"

/-- The value of a call. -/
def callFunction (function : String) (arguments : List Value) : Except Failure Value :=
  match Text.lowerAscii function, arguments with
  | "abs", [v] =>
    match v.toNumber with
    | .integer n => .ok (integerValue n.natAbs)
    | .real x => .ok (.real (.ofMagnitude false x.magnitude))
    | v => .ok v
  | "coalesce", vs => .ok ((vs.find? fun v => !v.isNull).getD .null)
  | "ifnull", vs => .ok ((vs.find? fun v => !v.isNull).getD .null)
  | "length", [v] =>
    match v with
    | .null => .ok .null
    | .blob bytes => .ok (.integer bytes.length)
    | v => .ok (.integer v.toText.length)
  | "lower", [v] => .ok (if v.isNull then .null else .text (Text.lowerAscii v.toText))
  | "upper", [v] => .ok (if v.isNull then .null else .text (Text.upperAscii v.toText))
  | "nullif", [x, y] => .ok (if x.compare y == .eq then .null else x)
  | "typeof", [v] => .ok (.text (typeName v))
  | _, _ => .error .invalid

/-- A selected row, the keys it is ordered by in front. -/
abbrev Selected := List (Value × Bool) × List Value

/-- The order of two lists of keys; a descending key turns its order around. -/
def compareKeys : List (Value × Bool) → List (Value × Bool) → Ordering
  | (x, descending) :: xs, (y, _) :: ys =>
    let first := if descending then y.compare x else x.compare y
    first.then (compareKeys xs ys)
  | _, _ => .eq

/-- Rows in the order of their keys; rows with equal keys keep their order. -/
def inOrder (rows : List Selected) : List (List Value) :=
  (rows.mergeSort fun a b => compareKeys a.1 b.1 != .gt).map (·.2)

/-- Whether a result only counts rows. -/
def countsRows : List ResultColumn → Bool
  | [] => false
  | columns => columns.all fun c => c matches .count

/-- Join rows with the rows of a source: those that meet the condition, or the row of NULLs if
the join is a left one and none does. -/
def joinRows (rows : List (List Frame)) (table : List Frame) (missing : Frame) (isLeft : Bool)
    (condition : List Frame → Except Failure Bool) : Except Failure (List (List Frame)) := do
  let joined ← rows.mapM fun frames => do
    let extended := table.map fun f => frames ++ [f]
    let kept ← extended.filterM condition
    return if kept.isEmpty && isLeft then [frames ++ [missing]] else kept
  return joined.flatten

mutual

/-- The value of an expression. -/
def Expr.eval (env : Environment) : Expr → Except Failure Value
  | .literal v => .ok v
  | .name q n doubleQuotes =>
    match findName? q n env.scopes with
    | some cell => .ok cell.value
    | none =>
      match unboundName? q n doubleQuotes with
      | some v => .ok v
      | none => .error .invalid
  | .parameter p => .ok (env.parameter p)
  | .unary op e => do op.apply (← e.eval env)
  | .binary op l r => do
    let a := comparisonAffinity (l.affinity? env.scopes) (r.affinity? env.scopes)
    op.apply a (← l.eval env) (← r.eval env)
  | .inList e items => do
    return member (memberAffinity (e.affinity? env.scopes)) (← e.eval env) (← evalAll env items)
  | .inQuery e q => do
    let rows ← q.eval env
    return member (memberAffinity (e.affinity? env.scopes)) (← e.eval env)
      (rows.map fun row => row.headD .null)
  | .exists q => do return .ofTruth (some !(← q.eval env).isEmpty)
  | .subquery q => do
    match ← q.eval env with
    | (v :: _) :: _ => return v
    | _ => return .null
  | .call f arguments => do callFunction f (← evalAll env arguments)
  | .cast e type => do return (Affinity.ofDeclaredType type).convert (← e.eval env)
  | .choice conditions results otherwise => do
    match ← firstHolding env conditions with
    | some i => evalAt env results i
    | none => otherwise.eval env
  | .collate e _ => e.eval env
  | .row _ => .error .invalid
  | .raise kind message => do throw (.raised kind (← message.eval env).toText)

/-- The values of a list of expressions. -/
def evalAll (env : Environment) : List Expr → Except Failure (List Value)
  | [] => .ok []
  | e :: rest => do return (← e.eval env) :: (← evalAll env rest)

/-- The number of the first condition that holds; no condition behind it is evaluated. -/
def firstHolding (env : Environment) : List Expr → Except Failure (Option Nat)
  | [] => .ok none
  | e :: rest => do
    if (← e.eval env).holds then return some 0
    return (← firstHolding env rest).map (· + 1)

/-- The value of one expression of a list. -/
def evalAt (env : Environment) : List Expr → Nat → Except Failure Value
  | [], _ => .ok .null
  | e :: _, 0 => e.eval env
  | _ :: rest, i + 1 => evalAt env rest i

/-- The rows that a query selects. -/
def Query.eval (env : Environment) : Query → Except Failure (List (List Value))
  | .select columns sources condition order => do
    let joined ← joinSources env [[]] sources
    let rows ← joined.filterM fun frames => do
      return (← condition.eval (env.inside frames)).holds
    if countsRows columns then return [columns.map fun _ => .integer rows.length]
    let selected ← rows.mapM fun frames => do
      return (← orderKeys (env.inside frames) order, ← resultRow (env.inside frames) columns)
    return inOrder selected

/-- Join rows with the given sources. -/
def joinSources (env : Environment) (rows : List (List Frame)) :
    List Source → Except Failure (List (List Frame))
  | [] => .ok rows
  | source :: rest => do joinSources env (← source.join env rows) rest

/-- Join rows with a source. -/
def Source.join (env : Environment) (rows : List (List Frame)) :
    Source → Except Failure (List (List Frame))
  | .table name tableAlias isLeft on =>
    match env.table? name with
    | none => .error .invalid
    | some (table, missing) =>
      joinRows rows (table.map (·.withAlias tableAlias)) (missing.withAlias tableAlias) isLeft
        fun frames => do return (← on.eval (env.inside frames)).holds

/-- The values of a selected row. -/
def resultRow (env : Environment) : List ResultColumn → Except Failure (List Value)
  | [] => .ok []
  | column :: rest => do return (← column.eval env) ++ (← resultRow env rest)

/-- The values of a column of a result. -/
def ResultColumn.eval (env : Environment) : ResultColumn → Except Failure (List Value)
  | .all => .ok ((env.scopes.headD []).flatMap (·.values))
  | .count => .error .invalid
  | .value e => do return [← e.eval env]

/-- The keys that a row is ordered by. -/
def orderKeys (env : Environment) : List OrderTerm → Except Failure (List (Value × Bool))
  | [] => .ok []
  | term :: rest => do return (← term.eval env) :: (← orderKeys env rest)

/-- A key that a row is ordered by. -/
def OrderTerm.eval (env : Environment) : OrderTerm → Except Failure (Value × Bool)
  | .by e descending => do return (← e.eval env, descending)

end

end Tablewright.Sql
