import Tablewright.Database.Run

/-!
# Limits

A script is not run beyond the limits of the engine: on the length of its text, on the columns of a
table or a row and the terms of a key, on the parameters of a statement, and on the depth of its
expressions (`Statement.isWithinLimits`).
-/

namespace Tablewright.Sql

/-- How long a text may be, in bytes. -/
def longestText : Nat :=
  1000000000

/-- How many columns a table, a row or a key may have. -/
def mostColumns : Nat :=
  2000

/-- How many parameters a statement may have. -/
def mostParameters : Nat :=
  32766

/-- How deep an expression may be. -/
def greatestDepth : Nat :=
  1000

/-! ## Depths -/

mutual

/-- The depth of an expression: 1 if it has no part. -/
def Expr.depth : Expr → Nat
  | .literal _ | .name _ _ _ | .parameter _ => 1
  | .unary _ e => e.depth + 1
  | .binary _ l r => max l.depth r.depth + 1
  | .inList e items => max e.depth (greatestOf items) + 1
  | .inQuery e q => max e.depth q.depth + 1
  | .exists q => q.depth + 1
  | .subquery q => q.depth + 1
  | .call _ arguments => greatestOf arguments + 1
  | .cast e _ => e.depth + 1
  | .choice conditions results otherwise =>
    max (max (greatestOf conditions) (greatestOf results)) otherwise.depth + 1
  | .collate e _ => e.depth + 1
  | .row items => greatestOf items + 1
  | .raise _ message => message.depth + 1

/-- The greatest depth of some expressions. -/
def greatestOf : List Expr → Nat
  | [] => 0
  | e :: rest => max e.depth (greatestOf rest)

/-- The greatest depth of the expressions of a query. -/
def Query.depth : Query → Nat
  | .select columns sources condition order =>
    max (max (columnsDepth columns) (sourcesDepth sources)) (max condition.depth (orderDepth order))

/-- The greatest depth of the columns of a result. -/
def columnsDepth : List ResultColumn → Nat
  | [] => 0
  | column :: rest => max column.depth (columnsDepth rest)

/-- The depth of a column of a result. -/
def ResultColumn.depth : ResultColumn → Nat
  | .all | .count => 1
  | .value e => e.depth

/-- The greatest depth of the conditions of sources. -/
def sourcesDepth : List Source → Nat
  | [] => 0
  | source :: rest => max source.depth (sourcesDepth rest)

/-- The depth of the condition of a source. -/
def Source.depth : Source → Nat
  | .table _ _ _ on => on.depth

/-- The greatest depth of the terms of an order. -/
def orderDepth : List OrderTerm → Nat
  | [] => 0
  | term :: rest => max term.depth (orderDepth rest)

/-- The depth of a term of an order. -/
def OrderTerm.depth : OrderTerm → Nat
  | .by e _ => e.depth

end

/-! ## Statements -/

/-- The expressions of the constraints of a column. -/
def ColumnConstraint.expressions : ColumnConstraint → List Expr
  | .default e => [e]
  | .check e _ => [e]
  | _ => []

/-- The expressions of a constraint on a table. -/
def TableConstraint.expressions : TableConstraint → List Expr
  | .primaryKey terms _ => terms.map (·.expr)
  | .unique terms => terms.map (·.expr)
  | .check e _ => [e]
  | _ => []

/-- Whether the keys of a constraint on a table are short enough. -/
def TableConstraint.hasShortKey : TableConstraint → Bool
  | .primaryKey terms _ => terms.length ≤ mostColumns
  | .unique terms => terms.length ≤ mostColumns
  | _ => true

/-- Whether expressions are not too deep. -/
def areShallow (es : List Expr) : Bool :=
  greatestOf es ≤ greatestDepth

/-- Whether a table definition keeps to the limits. -/
def TableDefinition.isWithinLimits (d : TableDefinition) : Bool :=
  d.columns.length ≤ mostColumns && d.constraints.all (·.hasShortKey) &&
    areShallow (d.columns.flatMap fun c => c.constraints.flatMap (·.expressions)) &&
    areShallow (d.constraints.flatMap (·.expressions))

/-- Whether a step of a trigger keeps to the limits. -/
def TriggerStep.isWithinLimits : TriggerStep → Bool
  | .query q => q.depth ≤ greatestDepth
  | .other => true

/-- How many parameters a statement has, given all their places: one for every name, and one for
every place of a question mark alone. -/
def parameterCount (places : List String) : Nat :=
  (places.filter (· == "?")).length + (places.filter (· != "?")).eraseDups.length

/-- Whether a statement keeps to the limits. -/
def Statement.isWithinLimits (s : Statement) : Bool :=
  parameterCount (Database.statementParameters s) ≤ mostParameters &&
    match s with
    | .createTable d => d.isWithinLimits
    | .createIndex d => d.terms.length ≤ mostColumns && areShallow (d.terms.map (·.expr))
    | .createView _ _ _ => true
    | .createTrigger d =>
      d.condition.depth ≤ greatestDepth && d.steps.all (·.isWithinLimits)
    | .drop _ _ _ => true
    | .write _ _ _ rows => rows.all fun row => row.length ≤ mostColumns && areShallow row
    | .delete _ condition => condition.depth ≤ greatestDepth
    | .query q => q.depth ≤ greatestDepth

end Tablewright.Sql
