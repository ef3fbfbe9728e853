import Tablewright.Sql.Value

/-!
# Expressions and queries

The syntax of expressions and of the queries that stand inside of them. Some notations have no
constructor of their own: `BETWEEN` is a conjunction of comparisons, `LIKE` and its kin are
calls, a missing condition is the condition `1`, a missing `ELSE` is NULL.
-/

namespace Tablewright.Sql

/-- An operator on one operand. -/
inductive UnaryOp
  | not
  | negate
  | plus
  | invert
  | isNull
  | notNull
  deriving DecidableEq, Repr

/-- An operator on two operands. -/
inductive BinaryOp
  | or
  | and
  | equal
  | notEqual
  | same
  | distinct
  | less
  | atMost
  | greater
  | atLeast
  | bitAnd
  | bitOr
  | shiftLeft
  | shiftRight
  | add
  | subtract
  | multiply
  | divide
  | remainder
  | concat
  deriving DecidableEq, Repr

/-- What becomes of a statement when a trigger raises an error. -/
inductive RaiseKind
  /-- The row is left out. -/
  | ignore
  /-- The statement is undone. -/
  | abort
  /-- The statement stops and keeps what it has written. -/
  | fail
  /-- The transaction is undone. -/
  | rollback
  deriving DecidableEq, Repr

mutual

/-- An expression. -/
inductive Expr
  | literal (value : Value)
  /-- A column, perhaps qualified by a table; a name between double quotes that is no column is
  a text. -/
  | name (qualifier : Option String) (name : String) (doubleQuotes : Bool)
  | parameter (name : String)
  | unary (op : UnaryOp) (operand : Expr)
  | binary (op : BinaryOp) (left right : Expr)
  | inList (operand : Expr) (items : List Expr)
  | inQuery (operand : Expr) (query : Query)
  | exists (query : Query)
  | subquery (query : Query)
  | call (function : String) (arguments : List Expr)
  | cast (operand : Expr) (type : String)
  /-- The result that goes with the first condition that holds. -/
  | choice (conditions results : List Expr) (otherwise : Expr)
  | collate (operand : Expr) (collation : String)
  | row (items : List Expr)
  | raise (kind : RaiseKind) (message : Expr)

/-- A query: what it selects, from which sources, under which condition, in which order. -/
inductive Query
  | select (columns : List ResultColumn) (sources : List Source) (condition : Expr)
      (order : List OrderTerm)

/-- A column of a result. -/
inductive ResultColumn
  /-- All columns of all sources. -/
  | all
  /-- The number of rows. -/
  | count
  | value (e : Expr)

/-- A table that a query reads, under an alias. A left join keeps the rows of the sources before
it that meet no row of this one. -/
inductive Source
  | table (name tableAlias : String) (isLeft : Bool) (on : Expr)

/-- A term of an order. -/
inductive OrderTerm
  | by (e : Expr) (descending : Bool)

end

namespace Expr

/-- The condition that always holds. -/
def always : Expr :=
  literal (.integer 1)

/-- NULL. -/
def null : Expr :=
  literal .null

end Expr

end Tablewright.Sql
