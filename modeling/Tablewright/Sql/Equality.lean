import Tablewright.Sql.Expr

/-!
# Equality of expressions and queries

Expressions and queries are compared part by part (`Expr.same`); that it decides equality is
`Expr.same_iff`.
-/

namespace Tablewright.Sql

mutual

/-- Whether two expressions are the same. -/
def Expr.same : Expr → Expr → Bool
  | .literal v, .literal v' => v == v'
  | .name q n d, .name q' n' d' => q == q' && n == n' && d == d'
  | .parameter p, .parameter p' => p == p'
  | .unary op e, .unary op' e' => op == op' && e.same e'
  | .binary op l r, .binary op' l' r' => op == op' && l.same l' && r.same r'
  | .inList e items, .inList e' items' => e.same e' && allSame items items'
  | .inQuery e q, .inQuery e' q' => e.same e' && q.same q'
  | .exists q, .exists q' => q.same q'
  | .subquery q, .subquery q' => q.same q'
  | .call f arguments, .call f' arguments' => f == f' && allSame arguments arguments'
  | .cast e type, .cast e' type' => e.same e' && type == type'
  | .choice cs rs o, .choice cs' rs' o' => allSame cs cs' && allSame rs rs' && o.same o'
  | .collate e c, .collate e' c' => e.same e' && c == c'
  | .row items, .row items' => allSame items items'
  | .raise k m, .raise k' m' => k == k' && m.same m'
  | _, _ => false

/-- Whether two lists of expressions are the same. -/
def allSame : List Expr → List Expr → Bool
  | [], [] => true
  | e :: rest, e' :: rest' => e.same e' && allSame rest rest'
  | _, _ => false

/-- Whether two queries are the same. -/
def Query.same : Query → Query → Bool
  | .select columns sources condition order, .select columns' sources' condition' order' =>
    columnsSame columns columns' && sourcesSame sources sources' && condition.same condition' &&
      orderSame order order'

/-- Whether two lists of columns of a result are the same. -/
def columnsSame : List ResultColumn → List ResultColumn → Bool
  | [], [] => true
  | c :: rest, c' :: rest' => c.same c' && columnsSame rest rest'
  | _, _ => false

/-- Whether two columns of a result are the same. -/
def ResultColumn.same : ResultColumn → ResultColumn → Bool
  | .all, .all => true
  | .count, .count => true
  | .value e, .value e' => e.same e'
  | _, _ => false

/-- Whether two lists of sources are the same. -/
def sourcesSame : List Source → List Source → Bool
  | [], [] => true
  | s :: rest, s' :: rest' => s.same s' && sourcesSame rest rest'
  | _, _ => false

/-- Whether two sources are the same. -/
def Source.same : Source → Source → Bool
  | .table n a l on, .table n' a' l' on' => n == n' && a == a' && l == l' && on.same on'

/-- Whether two orders are the same. -/
def orderSame : List OrderTerm → List OrderTerm → Bool
  | [], [] => true
  | t :: rest, t' :: rest' => t.same t' && orderSame rest rest'
  | _, _ => false

/-- Whether two terms of an order are the same. -/
def OrderTerm.same : OrderTerm → OrderTerm → Bool
  | .by e d, .by e' d' => e.same e' && d == d'

end

mutual

theorem Expr.same_iff : ∀ a b : Expr, a.same b = true ↔ a = b
  | .literal v, b => by cases b <;> simp [Expr.same]
  | .name q n d, b => by cases b <;> simp [Expr.same, and_assoc]
  | .parameter p, b => by cases b <;> simp [Expr.same]
  | .unary op e, b => by cases b <;> simp [Expr.same, Expr.same_iff e]
  | .binary op l r, b => by
    cases b <;> simp [Expr.same, Expr.same_iff l, Expr.same_iff r, and_assoc]
  | .inList e items, b => by cases b <;> simp [Expr.same, Expr.same_iff e, allSame_iff items]
  | .inQuery e q, b => by cases b <;> simp [Expr.same, Expr.same_iff e, Query.same_iff q]
  | .exists q, b => by cases b <;> simp [Expr.same, Query.same_iff q]
  | .subquery q, b => by cases b <;> simp [Expr.same, Query.same_iff q]
  | .call f arguments, b => by cases b <;> simp [Expr.same, allSame_iff arguments]
  | .cast e type, b => by cases b <;> simp [Expr.same, Expr.same_iff e]
  | .choice cs rs o, b => by
    cases b <;> simp [Expr.same, allSame_iff cs, allSame_iff rs, Expr.same_iff o, and_assoc]
  | .collate e c, b => by cases b <;> simp [Expr.same, Expr.same_iff e]
  | .row items, b => by cases b <;> simp [Expr.same, allSame_iff items]
  | .raise k m, b => by cases b <;> simp [Expr.same, Expr.same_iff m]
termination_by structural a => a

theorem allSame_iff : ∀ a b : List Expr, allSame a b = true ↔ a = b
  | [], b => by cases b <;> simp [allSame]
  | e :: rest, b => by cases b <;> simp [allSame, Expr.same_iff e, allSame_iff rest]
termination_by structural a => a

theorem Query.same_iff : ∀ a b : Query, a.same b = true ↔ a = b
  | .select columns sources condition order, .select _ _ _ _ => by
    simp [Query.same, columnsSame_iff columns, sourcesSame_iff sources, Expr.same_iff condition,
      orderSame_iff order, and_assoc]
termination_by structural a => a

theorem columnsSame_iff : ∀ a b : List ResultColumn, columnsSame a b = true ↔ a = b
  | [], b => by cases b <;> simp [columnsSame]
  | c :: rest, b => by
    cases b <;> simp [columnsSame, ResultColumn.same_iff c, columnsSame_iff rest]
termination_by structural a => a

theorem ResultColumn.same_iff : ∀ a b : ResultColumn, a.same b = true ↔ a = b
  | .all, b => by cases b <;> simp [ResultColumn.same]
  | .count, b => by cases b <;> simp [ResultColumn.same]
  | .value e, b => by cases b <;> simp [ResultColumn.same, Expr.same_iff e]
termination_by structural a => a

theorem sourcesSame_iff : ∀ a b : List Source, sourcesSame a b = true ↔ a = b
  | [], b => by cases b <;> simp [sourcesSame]
  | s :: rest, b => by cases b <;> simp [sourcesSame, Source.same_iff s, sourcesSame_iff rest]
termination_by structural a => a

theorem Source.same_iff : ∀ a b : Source, a.same b = true ↔ a = b
  | .table _ _ _ on, .table _ _ _ _ => by simp [Source.same, Expr.same_iff on, and_assoc]
termination_by structural a => a

theorem orderSame_iff : ∀ a b : List OrderTerm, orderSame a b = true ↔ a = b
  | [], b => by cases b <;> simp [orderSame]
  | t :: rest, b => by cases b <;> simp [orderSame, OrderTerm.same_iff t, orderSame_iff rest]
termination_by structural a => a

theorem OrderTerm.same_iff : ∀ a b : OrderTerm, a.same b = true ↔ a = b
  | .by e _, .by _ _ => by simp [OrderTerm.same, Expr.same_iff e]
termination_by structural a => a

end

instance : DecidableEq Expr := fun a b => decidable_of_iff _ (Expr.same_iff a b)

instance : DecidableEq Query := fun a b => decidable_of_iff _ (Query.same_iff a b)

end Tablewright.Sql
