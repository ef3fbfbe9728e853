import Tablewright.Sql.Frame
import Tablewright.Sql.Function

/-!
# Expressions that make sense

Before a statement runs, every name in it must refer to a column, every call to a function, and
every source to a table. `Expr.resolves` decides it for an expression in a scope.
-/

namespace Tablewright.Sql

/-- Where an expression stands. -/
structure Place where
  scopes : Scopes
  /-- The tables that queries may read, each as the frame of a row. -/
  table? : String → Option Frame
  /-- Whether queries are allowed. -/
  allowsQueries : Bool
  /-- Whether parameters are allowed. -/
  allowsParameters : Bool

/-- The frames of the sources of a query, if all tables exist. -/
def sourceFrames? (table? : String → Option Frame) : List Source → Option (List Frame)
  | [] => some []
  | .table name tableAlias _ _ :: rest => do
    return (← table? name).withAlias tableAlias :: (← sourceFrames? table? rest)

namespace Place

/-- The place inside of a query with the given frames. -/
def inside (p : Place) (frames : List Frame) : Place :=
  { p with scopes := frames :: p.scopes }

end Place

mutual

/-- Whether an expression makes sense in its place. -/
def Expr.resolves (p : Place) : Expr → Bool
  | .literal _ => true
  | .name q n doubleQuotes =>
    (findName? q n p.scopes).isSome || (unboundName? q n doubleQuotes).isSome
  | .parameter _ => p.allowsParameters
  | .unary _ e => e.resolves p
  | .binary _ l r => l.resolves p && r.resolves p
  | .inList e items => e.resolves p && allResolve p items
  | .inQuery e q => p.allowsQueries && e.resolves p && q.resolves p
  | .exists q => p.allowsQueries && q.resolves p
  | .subquery q => p.allowsQueries && q.resolves p
  | .call f arguments => isFunction f arguments.length && allResolve p arguments
  | .cast e _ => e.resolves p
  | .choice conditions results otherwise =>
    allResolve p conditions && allResolve p results && otherwise.resolves p
  | .collate e _ => e.resolves p
  | .row items => allResolve p items
  | .raise _ message => message.resolves p

/-- Whether all expressions of a list make sense. -/
def allResolve (p : Place) : List Expr → Bool
  | [] => true
  | e :: rest => e.resolves p && allResolve p rest

/-- Whether a query makes sense in its place. -/
def Query.resolves (p : Place) : Query → Bool
  | .select columns sources condition order =>
    match sourceFrames? p.table? sources with
    | none => false
    | some frames =>
      let inner := p.inside frames
      columnsResolve inner columns && sourcesResolve inner sources && condition.resolves inner &&
        orderResolves inner order

/-- Whether the columns of a result make sense. -/
def columnsResolve (p : Place) : List ResultColumn → Bool
  | [] => true
  | column :: rest => column.resolves p && columnsResolve p rest

/-- Whether a column of a result makes sense; all columns of no source are none. -/
def ResultColumn.resolves (p : Place) : ResultColumn → Bool
  | .all => !p.scopes.head?.all List.isEmpty
  | .count => true
  | .value e => e.resolves p

/-- Whether the conditions of the sources make sense. -/
def sourcesResolve (p : Place) : List Source → Bool
  | [] => true
  | source :: rest => source.resolves p && sourcesResolve p rest

/-- Whether the condition of a source makes sense. -/
def Source.resolves (p : Place) : Source → Bool
  | .table _ _ _ on => on.resolves p

/-- Whether the terms of an order make sense. -/
def orderResolves (p : Place) : List OrderTerm → Bool
  | [] => true
  | term :: rest => term.resolves p && orderResolves p rest

/-- Whether a term of an order makes sense. -/
def OrderTerm.resolves (p : Place) : OrderTerm → Bool
  | .by e _ => e.resolves p

end

/-! ## Constant expressions -/

mutual

/-- Whether an expression is made of literals and calls only. -/
def Expr.isConstant : Expr → Bool
  | .literal _ => true
  | .name q n doubleQuotes => !doubleQuotes && (unboundName? q n false).isSome
  | .unary _ e => e.isConstant
  | .binary _ l r => l.isConstant && r.isConstant
  | .inList e items => e.isConstant && allConstant items
  | .call _ arguments => allConstant arguments
  | .cast e _ => e.isConstant
  | .choice conditions results otherwise =>
    allConstant conditions && allConstant results && otherwise.isConstant
  | .collate e _ => e.isConstant
  | .row items => allConstant items
  | .parameter _ | .inQuery _ _ | .exists _ | .subquery _ | .raise _ _ => false

/-- Whether all expressions of a list are constant. -/
def allConstant : List Expr → Bool
  | [] => true
  | e :: rest => e.isConstant && allConstant rest

end

/-! ## Parameters -/

mutual

/-- The parameters of an expression, in order. -/
def Expr.parameters : Expr → List String
  | .literal _ | .name _ _ _ => []
  | .parameter p => [p]
  | .unary _ e => e.parameters
  | .binary _ l r => l.parameters ++ r.parameters
  | .inList e items => e.parameters ++ allParameters items
  | .inQuery e q => e.parameters ++ q.parameters
  | .exists q => q.parameters
  | .subquery q => q.parameters
  | .call _ arguments => allParameters arguments
  | .cast e _ => e.parameters
  | .choice conditions results otherwise =>
    allParameters conditions ++ allParameters results ++ otherwise.parameters
  | .collate e _ => e.parameters
  | .row items => allParameters items
  | .raise _ message => message.parameters

/-- The parameters of a list of expressions. -/
def allParameters : List Expr → List String
  | [] => []
  | e :: rest => e.parameters ++ allParameters rest

/-- The parameters of a query. -/
def Query.parameters : Query → List String
  | .select columns sources condition order =>
    columnParameters columns ++ sourceParameters sources ++ condition.parameters ++
      orderParameters order

/-- The parameters of the columns of a result. -/
def columnParameters : List ResultColumn → List String
  | [] => []
  | column :: rest => column.parameters ++ columnParameters rest

/-- The parameters of a column of a result. -/
def ResultColumn.parameters : ResultColumn → List String
  | .all | .count => []
  | .value e => e.parameters

/-- The parameters of the conditions of sources. -/
def sourceParameters : List Source → List String
  | [] => []
  | source :: rest => source.parameters ++ sourceParameters rest

/-- The parameters of the condition of a source. -/
def Source.parameters : Source → List String
  | .table _ _ _ on => on.parameters

/-- The parameters of the terms of an order. -/
def orderParameters : List OrderTerm → List String
  | [] => []
  | term :: rest => term.parameters ++ orderParameters rest

/-- The parameters of a term of an order. -/
def OrderTerm.parameters : OrderTerm → List String
  | .by e _ => e.parameters

end

end Tablewright.Sql
