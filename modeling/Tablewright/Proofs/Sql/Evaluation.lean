import Tablewright.Proofs.FallibleSteps
import Tablewright.Proofs.Sql.Comparison

/-!
# Evaluating queries

What a query selects if its conditions are known to be true or false for every row: the joined rows
that meet the condition, in the order of their keys (`eval_select`). A left join keeps every row
(`join_eq`), and an EXISTS says whether some row meets the condition (`decides_exists`).
-/

namespace Tablewright

open Sql

namespace Sql

variable {env : Environment}

/-! ## Conditions -/

/-- An expression is true, false or, for none, unknown. -/
def Expr.HasTruth (e : Expr) (env : Environment) (o : Option Bool) : Prop :=
  e.eval env = .ok (.ofTruth o)

/-- An expression is true or false. -/
def Expr.Decides (e : Expr) (env : Environment) (b : Bool) : Prop :=
  e.HasTruth env (some b)

/-- A condition holds, or it does not. -/
def Expr.Meets (e : Expr) (env : Environment) (b : Bool) : Prop :=
  (do return (← e.eval env).holds : Except Failure Bool) = .ok b

theorem Expr.HasTruth.and {l r : Expr} {a b : Option Bool} (hl : l.HasTruth env a)
    (hr : r.HasTruth env b) : (Expr.binary .and l r).HasTruth env (Truth.and a b) := by
  rw [HasTruth] at hl hr
  simp only [HasTruth, Expr.eval, hl, hr, ok_bind, BinaryOp.apply, Value.truth_ofTruth]

theorem Expr.HasTruth.not {e : Expr} {o : Option Bool} (h : e.HasTruth env o) :
    (Expr.unary .not e).HasTruth env (o.map (!·)) := by
  rw [HasTruth] at h
  simp only [HasTruth, Expr.eval, h, ok_bind, UnaryOp.apply, Value.truth_ofTruth]

/-- A condition holds if it is true. -/
theorem Expr.HasTruth.meets {e : Expr} {o : Option Bool} (h : e.HasTruth env o) :
    e.Meets env (o == some true) := by
  rw [HasTruth] at h
  rw [Meets, h, ok_bind, Value.holds_ofTruth]
  rfl

theorem Expr.Decides.and {l r : Expr} {a b : Bool} (hl : l.Decides env a) (hr : r.Decides env b) :
    (Expr.binary .and l r).Decides env (a && b) := by
  have hand := HasTruth.and hl hr
  rwa [Truth.and_some] at hand

theorem Expr.Decides.not {e : Expr} {b : Bool} (h : e.Decides env b) :
    (Expr.unary .not e).Decides env !b :=
  HasTruth.not h

theorem Expr.Decides.meets {e : Expr} {b : Bool} (h : e.Decides env b) : e.Meets env b := by
  have hmeets := HasTruth.meets h
  cases b <;> exact hmeets

theorem decides_always : Expr.always.Decides env true := rfl

/-! ## Joins -/

section Joins

variable {α β : Type} {name a : String} {rows : List α} {f : α → List Frame} {table : List β}
  {g : β → Frame} {missing : Frame} {isLeft : Bool} {on : Expr} {m : α → β → Bool}

/-- What a join makes of a row: it goes with every row of the source that meets the condition, or,
in a left join, with the row of NULLs if there is none. -/
def joined (f : α → List Frame) (table : List β) (g : β → Frame) (missing : Frame) (isLeft : Bool)
    (m : α → β → Bool) (x : α) : List (List Frame) :=
  let kept := table.filter (m x)
  if kept.isEmpty && isLeft then [f x ++ [missing]] else kept.map fun y => f x ++ [g y]

/-- **A join goes through the rows one after the other.** -/
theorem join_eq (htable : env.table? name = some (table.map g, missing))
    (h : ∀ x ∈ rows, ∀ y ∈ table,
      on.Meets (env.inside (f x ++ [(g y).withAlias a])) (m x y)) :
    Source.join env (rows.map f) (.table name a isLeft on) =
      .ok (rows.flatMap (joined f table (fun y => (g y).withAlias a) (missing.withAlias a)
        isLeft m)) := by
  have hstep : ∀ x ∈ rows, (do
      let kept ← (((table.map g).map (·.withAlias a)).map fun fr => f x ++ [fr]).filterM
        fun frames => do return (← on.eval (env.inside frames)).holds
      return if kept.isEmpty && isLeft then [f x ++ [missing.withAlias a]] else kept :
        Except Failure (List (List Frame))) =
      .ok (joined f table (fun y => (g y).withAlias a) (missing.withAlias a) isLeft m x) := by
    intro x hx
    have hkept : (table.map fun y => f x ++ [(g y).withAlias a]).filterM (fun frames => do
        return (← on.eval (env.inside frames)).holds : List Frame → Except Failure Bool) =
          .ok ((table.filter (m x)).map fun y => f x ++ [(g y).withAlias a]) :=
      filterM_map_eq_ok fun y hy => h x hx y hy
    rw [List.map_map, List.map_map]
    simp only [Function.comp_def, hkept, ok_bind, joined, List.isEmpty_map]
    rfl
  rw [Source.join, htable]
  simp only [joinRows, List.mapM_map, Function.comp_def]
  rw [mapM_eq_ok hstep, ok_bind, List.flatMap]
  rfl

/-- A single table gives each of its rows. -/
theorem join_table (h : env.table? name = some (table.map g, missing)) :
    Source.join env [[]] (.table name a false .always) =
      .ok (table.map fun y => [(g y).withAlias a]) := by
  have hjoin : Source.join env ([()].map fun _ => []) (.table name a false .always) = _ :=
    join_eq (m := fun _ _ => true) h fun _ _ _ _ => decides_always.meets
  have hall : table.filter (fun _ => true) = table := by simp
  rw [List.map_singleton] at hjoin
  rw [hjoin]
  simp [joined, hall]

theorem joinSources_table (h : env.table? name = some (table.map g, missing)) :
    joinSources env [[]] [.table name a false .always] =
      .ok (table.map fun y => [(g y).withAlias a]) := by
  rw [joinSources, join_table h, ok_bind, joinSources]

end Joins

/-! ## Queries -/

section Select

variable {α : Type} {sources : List Source} {rows : List α} {frames : α → List Frame}
  {condition : Expr} {m : α → Bool} {columns : List ResultColumn} {order : List OrderTerm}

/-- **What a query selects**: the joined rows that meet the condition. -/
theorem eval_select (hjoin : joinSources env [[]] sources = .ok (rows.map frames))
    (hmeets : ∀ x ∈ rows, condition.Meets (env.inside (frames x)) (m x))
    (hcount : countsRows columns = false) :
    (Query.select columns sources condition order).eval env = (do
      let selected ← (rows.filter m).mapM fun x => do
        return (← orderKeys (env.inside (frames x)) order,
          ← resultRow (env.inside (frames x)) columns)
      return inOrder selected) := by
  have hfilter : (rows.map frames).filterM (fun fs => do
      return (← condition.eval (env.inside fs)).holds : List Frame → Except Failure Bool) =
        .ok ((rows.filter m).map frames) :=
    filterM_map_eq_ok hmeets
  simp only [Query.eval, hjoin, ok_bind, hfilter, hcount, Bool.false_eq_true, if_false,
    List.mapM_map]
  rfl

theorem isEmpty_inOrder (selected : List Selected) :
    (inOrder selected).isEmpty = selected.isEmpty := by
  rw [Bool.eq_iff_iff, List.isEmpty_iff_length_eq_zero, List.isEmpty_iff_length_eq_zero, inOrder,
    List.length_map, List.length_mergeSort]

/-- An EXISTS says whether some row meets the condition. -/
theorem decides_exists {v : Value}
    (hjoin : joinSources env [[]] sources = .ok (rows.map frames))
    (hmeets : ∀ x ∈ rows, condition.Meets (env.inside (frames x)) (m x)) :
    (Expr.exists (.select [.value (.literal v)] sources condition [])).Decides env
      (rows.any m) := by
  have hselected : (rows.filter m).mapM (fun x => do
      return (← orderKeys (env.inside (frames x)) [],
        ← resultRow (env.inside (frames x)) [.value (.literal v)]) :
        α → Except Failure Selected) = .ok ((rows.filter m).map fun _ => ([], [v])) :=
    mapM_eq_ok fun _ _ => rfl
  have hany : (rows.filter m).isEmpty = !rows.any m := by
    rw [Bool.eq_iff_iff]
    simp
  rw [Expr.Decides, Expr.HasTruth, Expr.eval, eval_select hjoin hmeets rfl, hselected]
  simp only [ok_bind, pure, Except.pure, isEmpty_inOrder, List.isEmpty_map, hany, Bool.not_not]

end Select

end Sql

end Tablewright
