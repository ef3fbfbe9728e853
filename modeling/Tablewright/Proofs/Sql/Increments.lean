import Tablewright.Database.Script
import Tablewright.Proofs.Sql.Consumption
import Tablewright.Proofs.Sql.Lexemes

/-!
# Where AUTOINCREMENT is declared

In a table definition, the keyword `AUTOINCREMENT` stands behind a primary key and nowhere else: a
definition that is read from lexemes among which it is declares an autoincremented key
(`exists_of_statement`). The same theorem says where the source of the definition comes
from.
-/

namespace Tablewright.Sql

/-- Whether a constraint on a column declares an autoincremented key. -/
def ColumnConstraint.isIncrement : ColumnConstraint → Bool
  | .primaryKey _ autoIncrement => autoIncrement
  | _ => false

/-- Whether a constraint on a table declares an autoincremented key. -/
def TableConstraint.isIncrement : TableConstraint → Bool
  | .primaryKey _ autoIncrement => autoIncrement
  | _ => false

namespace Grammar

/-! ## Parts of constraints -/

theorem plain_checkCondition (label : Option String) : Plain (checkCondition label) :=
  (plain_expectSymbol "(").bind fun _ => plain_remaining.bind fun _ => plain_expr.bind fun _ =>
    plain_remaining.bind fun _ => (plain_expectSymbol ")").bind fun _ => accounts_pure

theorem plain_nameList? : Plain nameList? :=
  (plain_acceptSymbol "(").bind fun _ => .ite
    (plain_enoughFuel.bind fun fuel => (plain_commaList plain_name fuel).bind fun _ =>
      (plain_expectSymbol ")").bind fun _ => accounts_pure) accounts_pure

theorem plain_referenceAction : Plain referenceAction := by
  iterate 4 refine (plain_accept (by decide)).bind fun _ => .ite accounts_pure ?_
  exact (plain_expect (by decide)).bind fun _ => accounts_pure

theorem plain_referenceClauses (action : ReferenceAction) (fuel : Nat) :
    Plain (referenceClauses action fuel) := by
  induction fuel generalizing action with
  | zero => exact accounts_failure
  | succ fuel ih =>
    rw [referenceClauses]
    iterate 3
      refine (plain_accept (by decide)).bind fun _ => .ite
        (plain_referenceAction.bind fun _ => ih _) ?_
    exact (plain_accept (by decide)).bind fun _ => .ite (plain_name.bind fun _ => ih _) accounts_pure

theorem plain_deferral : Plain deferral := by
  refine (plain_accept (by decide)).bind fun _ => ?_
  extract_lets behind
  have hbehind : ∀ deferrable, Plain (behind deferrable) := fun _ => .ite
    ((plain_accept (by decide)).bind fun _ => .ite
      ((plain_accept (by decide)).bind fun _ => accounts_pure) accounts_pure) accounts_pure
  exact .ite (plain_pure.bind hbehind) ((plain_accept (by decide)).bind hbehind)

theorem plain_reference : Plain reference :=
  plain_name.bind fun _ => plain_nameList?.bind fun _ => plain_enoughFuel.bind fun fuel =>
    (plain_referenceClauses .refuse fuel).bind fun _ => accounts_pure

theorem plain_literal (negative : Bool) : Plain (literal negative) := by
  intro ls
  refine accountsAt_peek ?_
  split
  case h_5 w hfront =>
    have hother : ∀ k, Text.upperAscii w = k → Text.sameName k "AUTOINCREMENT" = false →
        isOther (front ls) := fun k hw hk => by rw [hfront]; exact isOther_of_upperAscii hw hk
    split
    case h_5 => exact accountsAt_failure
    all_goals
      rename_i hw
      exact accountsAt_skip (hother _ hw (by decide)) accountsAt_pure
  case h_6 => exact accountsAt_failure
  all_goals
    rename_i hfront
    have hother : isOther (front ls) := by rw [hfront]; rfl
  case h_1 =>
    refine accountsAt_skip hother ?_
    split
    · exact accountsAt_pure
    · exact accountsAt_failure
  all_goals exact accountsAt_skip hother accountsAt_pure

theorem plain_defaultValue : Plain defaultValue := by
  refine plain_peek.bind fun _ => .ite (plain_parenthesized plain_expr) ?_
  refine (plain_acceptSymbol "+").bind fun _ => .ite (plain_literal false) ?_
  refine (plain_acceptSymbol "-").bind fun _ => .ite (plain_literal true) ?_
  intro ls
  refine accountsAt_peek ?_
  split
  · rename_i hfront
    exact accountsAt_skip (by rw [hfront]; rfl) accountsAt_pure
  · rename_i w hfront
    split
    · exact plain_literal false _
    · rename_i hw
      simp only [Bool.or_eq_true, not_or, Bool.not_eq_true] at hw
      exact accountsAt_skip (by rw [hfront]; exact isOther_of_isReserved hw.1.1) accountsAt_pure
  · exact plain_literal false _

theorem plain_direction : Plain direction :=
  (plain_accept (by decide)).bind fun _ => .ite accounts_pure
    ((plain_accept (by decide)).bind fun _ => accounts_pure)

theorem plain_keyTerms : Plain keyTerms :=
  plain_enoughFuel.bind fun fuel => plain_commaList
    (plain_expr.bind fun _ => plain_direction.bind fun _ => accounts_pure) fuel

theorem plain_beginsTableConstraint : Plain beginsTableConstraint :=
  plain_peek.bind fun _ => accounts_pure

/-! ## Constraints that account for the keyword -/

/-- The keyword behind a primary key is accounted for by the answer. -/
theorem accounts_accept_increment : Accounts (accept ["AUTOINCREMENT"]) (· = true) := by
  intro ls b rest h
  rw [run_accept, Option.some.injEq] at h
  split at h
  · cases h
    exact ⟨_, (List.take_append_drop ..).symm, fun _ _ _ => rfl⟩
  · cases h
    exact ⟨[], rfl, by simp⟩

/-- Whether one of the constraints declares an autoincremented key. -/
def columnIncrements (constraints : List ColumnConstraint) : Prop :=
  ∃ k ∈ constraints, k.isIncrement = true

theorem accounts_moreConstraints {label : Option String} {fuel : Nat}
    (h : Accounts (columnConstraints label fuel) fun r => columnIncrements r.1)
    (c : ColumnConstraint) :
    Accounts (do
      let (rest, label) ← columnConstraints label fuel
      return (c :: rest, label)) fun r => columnIncrements r.1 :=
  h.bind (fun _ => accounts_pure) fun _ hmore => by
    obtain ⟨k, hk, hincrement⟩ := hmore
    exact ensures_pure ⟨k, List.mem_cons_of_mem c hk, hincrement⟩

theorem ensures_incrementedKey (label : Option String) (fuel : Nat) (descending : Bool) :
    Ensures (do
      let (rest, label) ← columnConstraints label fuel
      return (.primaryKey descending true :: rest, label)) fun r => columnIncrements r.1 :=
  .bind fun _ => ensures_pure ⟨_, List.mem_cons_self, rfl⟩

theorem accounts_columnConstraints (label : Option String) (fuel : Nat) :
    Accounts (columnConstraints label fuel) fun r => columnIncrements r.1 := by
  induction fuel generalizing label with
  | zero => exact accounts_failure
  | succ fuel ih =>
    have hmore := accounts_moreConstraints (ih label)
    have hkey : ∀ descending autoIncrement, autoIncrement = true → _ := fun descending _ h =>
      h ▸ ensures_incrementedKey label fuel descending
    rw [columnConstraints]
    refine (plain_accept (by decide)).bind fun _ => .ite (plain_name.bind fun _ => ih _) ?_
    refine (plain_accept (by decide)).bind fun _ => .ite
      (plain_defaultValue.bind fun _ => hmore _) ?_
    refine (plain_accept (by decide)).bind fun _ => .ite (hmore _) ?_
    refine plain_deferral.bind fun _ => .ite (hmore _) ?_
    refine (plain_accept (by decide)).bind fun _ => .ite (hmore _) ?_
    refine (plain_accept (by decide)).bind fun _ => .ite
      (plain_direction.bind fun _ => accounts_accept_increment.bind (fun _ => hmore _)
        fun _ => hkey _ _) ?_
    refine (plain_accept (by decide)).bind fun _ => .ite (hmore _) ?_
    refine (plain_accept (by decide)).bind fun _ => .ite
      ((plain_checkCondition label).bind fun ⟨_, _⟩ => hmore _) ?_
    refine (plain_accept (by decide)).bind fun _ => .ite (plain_reference.bind fun _ => hmore _) ?_
    refine (plain_accept (by decide)).bind fun _ => .ite ?_ accounts_pure
    intro ls
    refine accountsAt_peek ?_
    split
    · rename_i hname
      exact accountsAt_skip (isOther_of_plainNameOf? hname) (hmore _ _)
    · exact accountsAt_failure

/-- Whether one of the columns declares an autoincremented key. -/
def columnsIncrement (columns : List ColumnDefinition) : Prop :=
  ∃ c ∈ columns, columnIncrements c.constraints

theorem accounts_columnDefinition :
    Accounts columnDefinition fun r => columnIncrements r.1.constraints :=
  plain_name.bind fun _ => plain_enoughFuel.bind fun fuel => (plain_typeSource fuel).bind fun _ =>
    (accounts_columnConstraints none fuel).bind (fun ⟨_, _⟩ => accounts_pure) fun ⟨_, _⟩ h =>
      ensures_pure h

theorem accounts_columnDefinitions (fuel : Nat) :
    Accounts (columnDefinitions fuel) fun r => columnsIncrement r.1 := by
  induction fuel with
  | zero => exact accounts_failure
  | succ fuel ih =>
    rw [columnDefinitions]
    refine accounts_columnDefinition.bind (fun ⟨c, label⟩ => ?_) fun ⟨c, label⟩ hc => ?_
    · refine (plain_acceptSymbol ",").bind fun _ => .ite ?_ accounts_pure
      refine plain_beginsTableConstraint.bind fun _ => .ite accounts_pure ?_
      exact ih.bind (fun ⟨_, _, _⟩ => accounts_pure) fun ⟨_, _, _⟩ ⟨d, hd, hincrement⟩ =>
        ensures_pure ⟨d, List.mem_cons_of_mem c hd, hincrement⟩
    · have hfirst : ∀ rest : List ColumnDefinition, columnsIncrement (c :: rest) := fun _ =>
        ⟨c, List.mem_cons_self, hc⟩
      refine .bind fun more => ?_
      cases more with
      | false => exact ensures_pure (hfirst [])
      | true =>
        refine .bind fun isConstraint => ?_
        cases isConstraint with
        | true => exact ensures_pure (hfirst [])
        | false => exact .bind fun ⟨_, _, _⟩ => ensures_pure (hfirst _)

/-- Whether one of the constraints on a table declares an autoincremented key. -/
def tableIncrements (constraints : List TableConstraint) : Prop :=
  ∃ k ∈ constraints, k.isIncrement = true

theorem accounts_tableConstraints (label : Option String) (fuel : Nat) :
    Accounts (tableConstraints label fuel) tableIncrements := by
  induction fuel generalizing label with
  | zero => exact accounts_failure
  | succ fuel ih =>
    have hcons : ∀ c label, Accounts (do return c :: (← tableConstraints label fuel))
        tableIncrements := fun c label =>
      (ih label).bind (fun _ => accounts_pure) fun _ ⟨k, hk, hincrement⟩ =>
        ensures_pure ⟨k, List.mem_cons_of_mem c hk, hincrement⟩
    have hmore : ∀ c, Accounts (do
        if ← acceptSymbol "," then
          if !(← beginsTableConstraint) then failure
          return c :: (← tableConstraints none fuel)
        return c :: (← tableConstraints label fuel)) tableIncrements := fun c =>
      (plain_acceptSymbol ",").bind fun _ => .ite
        (plain_beginsTableConstraint.bind fun _ => .ite
          (plain_failure.bind fun _ => hcons c none) (hcons c none)) (hcons c label)
    have hkey : ∀ terms autoIncrement, autoIncrement = true → Ensures (do
        expectSymbol ")"
        if ← acceptSymbol "," then
          if !(← beginsTableConstraint) then failure
          return .primaryKey terms autoIncrement :: (← tableConstraints none fuel)
        return .primaryKey terms autoIncrement :: (← tableConstraints label fuel))
        tableIncrements := by
      intro terms autoIncrement hincrement
      have hresult : ∀ label, Ensures (do
          return .primaryKey terms autoIncrement :: (← tableConstraints label fuel))
          tableIncrements := fun _ =>
        .bind fun _ => ensures_pure ⟨_, List.mem_cons_self, hincrement⟩
      refine .bind fun _ => .bind fun comma => ?_
      cases comma with
      | false => exact hresult label
      | true =>
        refine .bind fun begins => ?_
        cases begins with
        | true => exact hresult none
        | false => exact .bind fun _ => hresult none
    rw [tableConstraints]
    refine (plain_accept (by decide)).bind fun _ => .ite ?_ ?_
    · refine plain_name.bind fun _ => (plain_acceptSymbol ",").bind fun _ => .ite ?_ (ih _)
      exact plain_beginsTableConstraint.bind fun _ => .ite (plain_failure.bind fun _ => ih _) (ih _)
    refine (plain_accept (by decide)).bind fun _ => .ite ?_ ?_
    · refine (plain_expectSymbol "(").bind fun _ => plain_keyTerms.bind fun terms => ?_
      exact accounts_accept_increment.bind
        (fun _ => (plain_expectSymbol ")").bind fun _ => hmore _) fun _ => hkey _ _
    refine (plain_accept (by decide)).bind fun _ => .ite
      ((plain_parenthesized plain_keyTerms).bind fun _ => hmore _) ?_
    refine (plain_accept (by decide)).bind fun _ => .ite
      ((plain_checkCondition label).bind fun ⟨_, _⟩ => hmore _) ?_
    refine (plain_accept (by decide)).bind fun _ => .ite ?_ accounts_pure
    refine (plain_parenthesized (plain_enoughFuel.bind fun fuel =>
      plain_commaList plain_name fuel)).bind fun _ => (plain_expect (by decide)).bind fun _ => ?_
    exact plain_reference.bind fun _ => plain_deferral.bind fun _ => hmore _

/-! ## Names and symbols taken off -/

section Exact

variable {ls rest : List Lexeme}

theorem exists_cons_of_name {n : String} (h : name.run ls = some (n, rest)) :
    ∃ l, ls = l :: rest ∧ ∀ s, l.token ≠ .symbol s := by
  cases ls with
  | nil => cases h
  | cons l ls =>
    obtain ⟨gap, text, token⟩ := l
    have hrest : ls = rest := by
      cases token with
      | string s => cases h; rfl
      | quotedName q doubleQuotes => cases h; rfl
      | word w =>
        by_cases hw : isReserved w = true
        · simp only [name, peek, front, bind_pure_comp, nameOf?, bind_map_left, StateT.run_bind,
            StateT.run_get, Option.pure_def, Option.bind_eq_bind, Option.bind_some, hw, ↓reduceIte] at h
          cases h
        · simp [name, peek, front, nameOf?, hw, skip] at h
          exact h.2
      | _ => cases h
    refine ⟨_, by rw [hrest], fun s hs => ?_⟩
    subst hs
    cases h

theorem exists_cons_of_acceptSymbol {s : String} (h : (acceptSymbol s).run ls = some (true, rest)) :
    ∃ l, ls = l :: rest ∧ l.token = .symbol s := by
  rw [run_acceptSymbol, Option.some.injEq] at h
  split at h
  · rename_i hfront
    cases ls with
    | nil => cases hfront
    | cons l ls =>
      cases h
      exact ⟨l, rfl, hfront⟩
  · cases h

theorem exists_cons_of_expectSymbol {s : String} {u : Unit}
    (h : (expectSymbol s).run ls = some (u, rest)) : ∃ l, ls = l :: rest ∧ l.token = .symbol s := by
  obtain ⟨b, middle, hb, h⟩ := run_bind_eq_some.1 h
  cases b with
  | false => cases h
  | true =>
    cases h
    exact exists_cons_of_acceptSymbol hb

/-- Keywords that are perhaps taken off, and nothing else. -/
theorem exists_append_of_accept {keywords : List String} {b : Bool}
    (h : (accept keywords).run ls = some (b, rest)) :
    ∃ taken, ls = taken ++ rest ∧ ∀ l ∈ taken, ∀ s, l.token ≠ .symbol s := by
  rw [run_accept, Option.some.injEq] at h
  split at h
  · rename_i hbegin
    cases h
    refine ⟨_, (List.take_append_drop ..).symm, fun l hl s hs => ?_⟩
    obtain ⟨k, -, hk⟩ := isKeyword_of_beginWith hbegin l hl
    rw [hs] at hk
    cases hk
  · cases h
    exact ⟨[], rfl, by simp⟩

/-- The words of an option that is perhaps taken off, and nothing else. -/
theorem exists_append_of_ifNotExists {b : Bool} (h : ifNotExists.run ls = some (b, rest)) :
    ∃ taken, ls = taken ++ rest ∧ ∀ l ∈ taken, ∀ s, l.token ≠ .symbol s := by
  obtain ⟨b', middle, hif, h⟩ := run_bind_eq_some.1 h
  obtain ⟨first, rfl, hfirst⟩ := exists_append_of_accept hif
  cases b' with
  | false =>
    cases h
    exact ⟨first, rfl, hfirst⟩
  | true =>
    obtain ⟨_, behind, hexpect, h⟩ := run_bind_eq_some.1 h
    cases h
    obtain ⟨b, _, haccept, hexpect⟩ := run_bind_eq_some.1 hexpect
    obtain ⟨second, rfl, hsecond⟩ := exists_append_of_accept haccept
    cases b with
    | false => cases hexpect
    | true =>
      cases hexpect
      refine ⟨first ++ second, (List.append_assoc ..).symm, fun l hl => ?_⟩
      exact (List.mem_append.1 hl).elim (hfirst l) (hsecond l)

/-- The name of an object to define is read as any other. -/
theorem run_objectName_of_newObjectName {n : ObjectName}
    (h : newObjectName.run ls = some (n, rest)) : objectName.run ls = some (n, rest) := by
  obtain ⟨start, _, hstart, h⟩ := run_bind_eq_some.1 h
  cases hstart
  obtain ⟨n', middle, hname, h⟩ := run_bind_eq_some.1 h
  obtain ⟨behind, _, hbehind, h⟩ := run_bind_eq_some.1 h
  cases hbehind
  split at h
  · cases h
  · cases h
    exact hname

/-- The lexemes of an object's name, those of the schema in front. -/
theorem exists_of_objectName {n : ObjectName} (h : objectName.run ls = some (n, rest)) :
    ∃ schema name, ls = schema ++ name :: rest ∧ (∀ l ∈ name :: schema, l.token ≠ .symbol "(") ∧
      schema.length = if n.schema.isSome then 2 else 0 := by
  obtain ⟨⟨schema, n'⟩, middle, htable, hresult⟩ := run_bind_eq_some.1 h
  cases hresult
  obtain ⟨first, afterFirst, hfirst, hbehind⟩ := run_bind_eq_some.1 htable
  obtain ⟨b, afterDot, hdot, hbehind⟩ := run_bind_eq_some.1 hbehind
  obtain ⟨l, rfl, hl⟩ := exists_cons_of_name hfirst
  cases b with
  | false =>
    cases hbehind
    rw [run_acceptSymbol, Option.some.injEq] at hdot
    split at hdot
    · cases hdot
    · cases hdot
      exact ⟨[], l, rfl, by simpa using hl "(", rfl⟩
  | true =>
    obtain ⟨second, afterSecond, hsecond, hbehind⟩ := run_bind_eq_some.1 hbehind
    cases hbehind
    obtain ⟨dot, rfl, htoken⟩ := exists_cons_of_acceptSymbol hdot
    obtain ⟨m, rfl, hm⟩ := exists_cons_of_name hsecond
    refine ⟨[l, dot], m, rfl, ?_, rfl⟩
    simp [hl, hm, htoken]

end Exact

/-! ## Whole definitions -/

/-- The lexemes of a table definition: those in front of the name, the name, the opening
parenthesis and everything behind it, up to the rest. The source begins with the name, and the
keyword stands for an autoincremented key. -/
structure IsDefinition (d : TableDefinition) (before : List Lexeme) (name opening : Lexeme)
    (items rest : List Lexeme) : Prop where
  token_before : ∀ l ∈ before, l.token ≠ .symbol "("
  token_name : name.token ≠ .symbol "("
  token_opening : opening.token = .symbol "("
  source : ∃ trail, trail <+: textOf rest ∧
    d.source = String.ofList (sourceOf (name :: opening :: items) ++ trail)
  increments : ∀ l ∈ items, l.isIncrement = true →
    columnsIncrement d.columns ∨ tableIncrements d.constraints

/-- The lexemes up to those that are left. -/
theorem take_length_sub {α : Type} (taken rest : List α) :
    (taken ++ rest).take ((taken ++ rest).length - rest.length) = taken :=
  List.take_left' (by simp)

theorem exists_of_createTable {isTemporary : Bool} {ls rest : List Lexeme} {s : Statement}
    (h : (createTable isTemporary).run ls = some (s, rest)) :
    ∃ d before name opening items, s = .createTable d ∧
      ls = before ++ name :: opening :: (items ++ rest) ∧
      IsDefinition d before name opening items rest := by
  obtain ⟨ifNotExists, first, hexists, h⟩ := run_bind_eq_some.1 h
  obtain ⟨_, _, hremaining, h⟩ := run_bind_eq_some.1 h
  cases hremaining
  obtain ⟨n, afterName, hname, h⟩ := run_bind_eq_some.1 h
  obtain ⟨_, afterOpening, hopening, h⟩ := run_bind_eq_some.1 h
  obtain ⟨fuel, afterFuel, hfuel, h⟩ := run_bind_eq_some.1 h
  obtain ⟨⟨columns, label, more⟩, afterColumns, hcolumns, h⟩ := run_bind_eq_some.1 h
  dsimp -zeta only at h
  extract_lets behind at h
  obtain ⟨constraints, afterConstraints, hconstraints, h⟩ : ∃ constraints middle,
      (if more then tableConstraints label fuel else pure []).run afterColumns =
        some (constraints, middle) ∧ (behind constraints).run middle = some (s, rest) := by
    cases more <;> exact run_bind_eq_some.1 h
  obtain ⟨_, closed, hclosing, h⟩ := run_bind_eq_some.1 h
  obtain ⟨_, _, hremaining, h⟩ := run_bind_eq_some.1 h
  cases hremaining
  obtain ⟨withoutRowid, _, hwithout, h⟩ := run_bind_eq_some.1 h
  obtain ⟨_, _, hremaining, h⟩ := run_bind_eq_some.1 h
  cases hremaining
  cases h
  obtain ⟨clause, rfl, hclause⟩ := exists_append_of_ifNotExists hexists
  obtain ⟨schema, name, rfl, hsymbol, hlength⟩ := exists_of_objectName (run_objectName_of_newObjectName hname)
  obtain ⟨opening, rfl, htoken⟩ := exists_cons_of_expectSymbol hopening
  obtain rfl : afterOpening = afterFuel := by cases hfuel; rfl
  obtain ⟨columnItems, rfl, hcolumnItems⟩ := accounts_columnDefinitions _ _ _ _ hcolumns
  obtain ⟨constraintItems, rfl, hconstraintItems⟩ :
      ∃ taken, afterColumns = taken ++ afterConstraints ∧
        ∀ l ∈ taken, l.isIncrement = true → tableIncrements constraints :=
    Accounts.ite (accounts_tableConstraints label fuel) accounts_pure _ _ _ hconstraints
  obtain ⟨closing, rfl, hmark⟩ := exists_cons_of_expectSymbol hclosing
  obtain ⟨options, rfl, hoptions⟩ := plain_accept (by decide) _ _ _ hwithout
  have hnone : withoutRowid = false → options = [] := by
    rintro rfl
    rw [run_accept, Option.some.injEq] at hwithout
    split at hwithout
    · cases (Prod.mk.inj hwithout).1
    · simpa using (Prod.mk.inj hwithout).2
  have hstart : ∀ behind : List Lexeme,
      (if n.schema.isSome = true then List.drop 2 (schema ++ behind) else schema ++ behind) =
        behind := by
    intro behind
    split
    · rename_i hsome
      rw [if_pos hsome] at hlength
      exact List.drop_left' hlength
    · rename_i hsome
      rw [if_neg hsome] at hlength
      rw [List.length_eq_zero_iff.1 hlength, List.nil_append]
  have hitems : name :: opening :: (columnItems ++ (constraintItems ++ closing :: (options ++ rest))) =
      (name :: opening :: (columnItems ++ (constraintItems ++ closing :: options))) ++ rest := by
    simp
  refine ⟨_, clause ++ schema, name, opening, columnItems ++ (constraintItems ++ closing :: options),
    rfl, by simp, ?_⟩
  constructor
  · intro l hl
    rcases List.mem_append.1 hl with hl | hl
    · exact hclause l hl "("
    · exact hsymbol l (List.mem_cons_of_mem _ hl)
  · exact hsymbol name List.mem_cons_self
  · exact htoken
  · simp only [hstart]
    cases withoutRowid with
    | true =>
      refine ⟨(rest.head?.map (·.gap)).getD [], ?_, by rw [if_pos rfl, hitems, take_length_sub]⟩
      cases rest with
      | nil => exact List.nil_prefix
      | cons l rest => exact textOf_cons l rest ▸ List.prefix_append ..
    | false =>
      obtain rfl := hnone rfl
      refine ⟨[], List.nil_prefix, ?_⟩
      rw [if_neg (by simp), hitems, List.nil_append, take_length_sub, List.append_nil]
  · intro l hl hincrement
    simp only [List.mem_append, List.mem_cons] at hl
    rcases hl with hl | hl | rfl | hl
    · exact .inl (hcolumnItems l hl hincrement)
    · exact .inr (hconstraintItems l hl hincrement)
    · have hother : isOther l.token := by rw [hmark]; rfl
      exact absurd hincrement (Bool.eq_false_iff.1 hother)
    · exact (hoptions l hl hincrement).elim

/-! ## Definitions in statements -/

/-- Whether a statement defines no table. -/
def IsOther (s : Statement) : Prop :=
  ∀ d, s ≠ .createTable d

theorem ensures_createIndex (isUnique : Bool) : Ensures (createIndex isUnique) IsOther :=
  .bind fun _ => .bind fun _ => .bind fun _ => .bind fun _ => .bind fun _ =>
    ensures_pure fun _ => nofun

theorem ensures_createView (isTemporary : Bool) : Ensures (createView isTemporary) IsOther :=
  .bind fun _ => .bind fun _ => .bind fun _ => .bind fun _ => .bind fun _ => .bind fun _ =>
    ensures_pure fun _ => nofun

theorem ensures_createTrigger (isTemporary : Bool) : Ensures (createTrigger isTemporary) IsOther := by
  iterate 7 refine .bind fun _ => ?_
  refine .bind fun b => ?_
  extract_lets behind
  have hbehind : ∀ condition, Ensures (behind condition) IsOther := fun _ =>
    .bind fun _ => .bind fun _ => .bind fun _ => ensures_pure fun _ => nofun
  cases b <;> exact .bind hbehind

theorem ensures_drop : Ensures drop IsOther :=
  .bind fun _ => .bind fun _ => .bind fun _ => ensures_pure fun _ => nofun

theorem ensures_write (verb : WriteVerb) : Ensures (write verb) IsOther :=
  .bind fun _ => .bind fun _ => .bind fun _ => .bind fun _ => .bind fun _ =>
    ensures_pure fun _ => nofun

theorem ensures_delete : Ensures delete IsOther := by
  iterate 2 refine .bind fun _ => ?_
  refine .bind fun b => ?_
  cases b <;> exact .bind fun _ => ensures_pure fun _ => nofun

/-- The lexemes are keywords, up to the definition of a table. -/
def LeadsToTable (d : TableDefinition) (ls rest : List Lexeme) : Prop :=
  ∃ isTemporary keywords middle, ls = keywords ++ middle ∧
    (∀ l ∈ keywords, ∀ s, l.token ≠ .symbol s) ∧
    (createTable isTemporary).run middle = some (.createTable d, rest)

theorem LeadsToTable.accept {d : TableDefinition} {keywords : List String} {b : Bool}
    {ls middle rest : List Lexeme} (haccept : (accept keywords).run ls = some (b, middle))
    (h : LeadsToTable d middle rest) : LeadsToTable d ls rest := by
  obtain ⟨isTemporary, words, behind, rfl, hwords, hrun⟩ := h
  obtain ⟨taken, rfl, htaken⟩ := exists_append_of_accept haccept
  refine ⟨isTemporary, taken ++ words, behind, by simp, fun l hl => ?_, hrun⟩
  rcases List.mem_append.1 hl with hl | hl
  · exact htaken l hl
  · exact hwords l hl

theorem leadsToTable_of_create {ls rest : List Lexeme} {d : TableDefinition}
    (h : create.run ls = some (.createTable d, rest)) : LeadsToTable d ls rest := by
  obtain ⟨isUnique, _, hunique, h⟩ := run_bind_eq_some.1 h
  refine .accept hunique ?_
  cases isUnique with
  | true => exact absurd rfl (ensures_createIndex true _ _ _ h d)
  | false =>
  obtain ⟨isIndex, _, hindex, h⟩ := run_bind_eq_some.1 h
  refine .accept hindex ?_
  cases isIndex with
  | true => exact absurd rfl (ensures_createIndex false _ _ _ h d)
  | false =>
  obtain ⟨isTemp, _, htemp, h⟩ := run_bind_eq_some.1 h
  refine .accept htemp ?_
  extract_lets behind at h
  have hbehind : ∀ isTemporary ls, (behind isTemporary).run ls = some (.createTable d, rest) →
      LeadsToTable d ls rest := by
    intro isTemporary ls h
    obtain ⟨isTable, _, htable, h⟩ := run_bind_eq_some.1 h
    refine .accept htable ?_
    cases isTable with
    | true => exact ⟨isTemporary, [], _, rfl, by simp, h⟩
    | false =>
    obtain ⟨isView, _, -, h⟩ := run_bind_eq_some.1 h
    cases isView with
    | true => exact absurd rfl (ensures_createView isTemporary _ _ _ h d)
    | false =>
      obtain ⟨_, _, -, h⟩ := run_bind_eq_some.1 h
      exact absurd rfl (ensures_createTrigger isTemporary _ _ _ h d)
  cases isTemp with
  | true => exact hbehind true _ h
  | false =>
    obtain ⟨isTemporary, _, htemporary, h⟩ := run_bind_eq_some.1 h
    exact .accept htemporary (hbehind isTemporary _ h)

theorem leadsToTable_of_command {ls rest : List Lexeme} {d : TableDefinition}
    (h : command.run ls = some (.createTable d, rest)) : LeadsToTable d ls rest := by
  obtain ⟨isCreate, _, hcreate, h⟩ := run_bind_eq_some.1 h
  cases isCreate with
  | true => exact .accept hcreate (leadsToTable_of_create h)
  | false =>
  -- Every other statement is none that defines a table.
  exfalso
  obtain ⟨isDrop, _, -, h⟩ := run_bind_eq_some.1 h
  cases isDrop with
  | true => exact ensures_drop _ _ _ h d rfl
  | false =>
  obtain ⟨isInsert, _, -, h⟩ := run_bind_eq_some.1 h
  cases isInsert with
  | true => exact ensures_write .insert _ _ _ h d rfl
  | false =>
  obtain ⟨isReplace, _, -, h⟩ := run_bind_eq_some.1 h
  cases isReplace with
  | true => exact ensures_write .replace _ _ _ h d rfl
  | false =>
  obtain ⟨isDelete, _, -, h⟩ := run_bind_eq_some.1 h
  cases isDelete with
  | true => exact ensures_delete _ _ _ h d rfl
  | false =>
  have hquery : Ensures (do return .query (← query (← enoughFuel))) IsOther :=
    .bind fun _ => .bind fun _ => ensures_pure fun _ => nofun
  exact hquery _ _ _ h d rfl

/-- **The lexemes of a table definition.** They are keywords, the name, the parenthesis and the items
behind it, up to a semicolon or the end of the script. -/
theorem exists_of_statement {ls rest : List Lexeme} {d : TableDefinition}
    (h : statement.run ls = some (.createTable d, rest)) :
    ∃ before name opening items ending, ls = before ++ name :: opening :: (items ++ ending ++ rest) ∧
      (∀ l ∈ ending, l.token = .symbol ";") ∧
      IsDefinition d before name opening items (ending ++ rest) := by
  obtain ⟨s, middle, hcommand, h⟩ := run_bind_eq_some.1 h
  obtain ⟨u, last, hend, h⟩ := run_bind_eq_some.1 h
  cases h
  obtain ⟨ending, rfl, hending⟩ : ∃ ending, middle = ending ++ rest ∧
      ∀ l ∈ ending, l.token = .symbol ";" := by
    obtain ⟨t, _, hpeek, hend⟩ := run_bind_eq_some.1 hend
    cases hpeek
    split at hend
    · rename_i hfront
      cases hend
      cases middle with
      | nil => cases hfront
      | cons l middle => exact ⟨[l], rfl, fun m hm => List.mem_singleton.1 hm ▸ hfront⟩
    · cases hend
      exact ⟨[], rfl, by simp⟩
    · cases hend
  obtain ⟨isTemporary, keywords, behind, rfl, hkeywords, hrun⟩ := leadsToTable_of_command hcommand
  obtain ⟨d', before, name, opening, items, heq, rfl, hd⟩ := exists_of_createTable hrun
  cases heq
  refine ⟨keywords ++ before, name, opening, items, ending, by simp, hending, ?_⟩
  refine { hd with token_before := fun l hl => ?_ }
  rcases List.mem_append.1 hl with hl | hl
  · exact hkeywords l hl "("
  · exact hd.token_before l hl

/-! ## All statements -/

theorem plain_objectName : Plain objectName :=
  plain_tableName.bind fun ⟨_, _⟩ => accounts_pure

theorem plain_newObjectName : Plain newObjectName :=
  plain_remaining.bind fun _ => plain_objectName.bind fun _ => plain_remaining.bind fun _ =>
    .ite accounts_failure accounts_pure

theorem plain_ifNotExists : Plain ifNotExists :=
  (plain_accept (by decide)).bind fun _ => .ite
    ((plain_expect (by decide)).bind fun _ => accounts_pure) accounts_pure

theorem plain_ifExists : Plain ifExists :=
  (plain_accept (by decide)).bind fun _ => .ite
    ((plain_expect (by decide)).bind fun _ => accounts_pure) accounts_pure

theorem plain_createIndex (isUnique : Bool) : Plain (createIndex isUnique) :=
  plain_ifNotExists.bind fun _ => plain_newObjectName.bind fun _ =>
    (plain_expect (by decide)).bind fun _ => plain_name.bind fun _ =>
      (plain_parenthesized plain_keyTerms).bind fun _ => accounts_pure

theorem plain_createView (isTemporary : Bool) : Plain (createView isTemporary) :=
  plain_ifNotExists.bind fun _ => plain_newObjectName.bind fun _ => plain_nameList?.bind
    fun _ => (plain_expect (by decide)).bind fun _ => plain_enoughFuel.bind fun fuel =>
      (plainAt fuel).query.bind fun _ => accounts_pure

theorem plain_valueRows : Plain valueRows :=
  plain_enoughFuel.bind fun fuel => plain_commaList ((plain_expectSymbol "(").bind fun _ =>
    (plainAt fuel).expressions.bind fun _ => (plain_expectSymbol ")").bind fun _ => accounts_pure) fuel

theorem plain_write (verb : WriteVerb) : Plain (write verb) :=
  (plain_expect (by decide)).bind fun _ => plain_objectName.bind fun _ => plain_nameList?.bind
    fun _ => (plain_expect (by decide)).bind fun _ => plain_valueRows.bind fun _ => accounts_pure

theorem plain_delete : Plain delete :=
  (plain_expect (by decide)).bind fun _ => plain_objectName.bind fun _ =>
    (plain_accept (by decide)).bind fun _ => .ite (plain_expr.bind fun _ => accounts_pure)
      (plain_pure.bind fun _ => accounts_pure)

theorem plain_triggerAction : Plain triggerAction := by
  refine plain_peek.bind fun _ => .ite ?_ ?_
  · exact plain_enoughFuel.bind fun fuel => (plainAt fuel).query.bind fun _ => accounts_pure
  refine (plain_accept (by decide)).bind fun _ => .ite
    ((plain_write .insert).bind fun _ => accounts_pure) ?_
  refine (plain_accept (by decide)).bind fun _ => .ite
    ((plain_write .replace).bind fun _ => accounts_pure) ?_
  refine (plain_accept (by decide)).bind fun _ => .ite (plain_delete.bind fun _ => accounts_pure) ?_
  have hassignment : Plain assignment := plain_name.bind fun _ => (plain_expectSymbol "=").bind
    fun _ => plain_expr.bind fun _ => accounts_pure
  exact (plain_expect (by decide)).bind fun _ => plain_name.bind fun _ =>
    (plain_expect (by decide)).bind fun _ => plain_enoughFuel.bind fun fuel =>
      (plain_commaList hassignment fuel).bind fun _ => (plain_accept (by decide)).bind fun _ =>
        .ite (plain_expr.bind fun _ => accounts_pure) accounts_pure

theorem plain_triggerSteps (fuel : Nat) : Plain (triggerSteps fuel) := by
  have hstep : Plain triggerStep := plain_triggerAction.bind fun _ =>
    (plain_expectSymbol ";").bind fun _ => accounts_pure
  induction fuel with
  | zero => exact accounts_failure
  | succ fuel ih =>
    exact hstep.bind fun _ => (plain_accept (by decide)).bind fun _ =>
      .ite accounts_pure (ih.bind fun _ => accounts_pure)

theorem plain_triggerTime : Plain triggerTime :=
  (plain_accept (by decide)).bind fun _ => .ite accounts_pure <|
    (plain_accept (by decide)).bind fun _ => .ite accounts_pure <|
      (plain_accept (by decide)).bind fun _ => accounts_pure

theorem plain_triggerEvent : Plain triggerEvent :=
  (plain_accept (by decide)).bind fun _ => .ite accounts_pure <|
    (plain_accept (by decide)).bind fun _ => .ite accounts_pure <|
      (plain_expect (by decide)).bind fun _ => (plain_accept (by decide)).bind fun _ => .ite
        (plain_enoughFuel.bind fun fuel => (plain_commaList plain_name fuel).bind fun _ =>
          accounts_pure) accounts_pure

theorem plain_createTrigger (isTemporary : Bool) : Plain (createTrigger isTemporary) := by
  refine plain_ifNotExists.bind fun _ => plain_newObjectName.bind fun _ =>
    plain_triggerTime.bind fun _ => plain_triggerEvent.bind fun _ =>
      (plain_expect (by decide)).bind fun _ => plain_objectName.bind fun _ =>
        (plain_accept (by decide)).bind fun _ => (plain_accept (by decide)).bind fun _ => ?_
  extract_lets behind
  have hbehind : ∀ condition, Plain (behind condition) := fun _ =>
    (plain_expect (by decide)).bind fun _ => plain_enoughFuel.bind fun fuel =>
      (plain_triggerSteps fuel).bind fun _ => accounts_pure
  exact .ite (plain_expr.bind hbehind) (plain_pure.bind hbehind)

theorem plain_drop : Plain drop := by
  have hkind : Plain objectKind :=
    (plain_accept (by decide)).bind fun _ => .ite accounts_pure <|
      (plain_accept (by decide)).bind fun _ => .ite accounts_pure <|
        (plain_accept (by decide)).bind fun _ => .ite accounts_pure <|
          (plain_expect (by decide)).bind fun _ => accounts_pure
  exact hkind.bind fun _ => plain_ifExists.bind fun _ => plain_objectName.bind fun _ =>
    accounts_pure

/-- **A statement takes lexemes off the front**, whichever it is. -/
theorem accounts_statement : Accounts statement fun _ => True := by
  have htable : ∀ isTemporary, Accounts (createTable isTemporary) fun _ => True := by
    intro isTemporary ls s rest h
    obtain ⟨_, before, name, opening, items, -, rfl, -⟩ := exists_of_createTable h
    exact ⟨before ++ name :: opening :: items, by simp, fun _ _ _ => trivial⟩
  have hcreate : Accounts create fun _ => True := by
    refine (plain_accept (by decide)).bind fun _ => .ite (plain_createIndex true).accounts ?_
    refine (plain_accept (by decide)).bind fun _ => .ite (plain_createIndex false).accounts ?_
    refine (plain_accept (by decide)).bind fun _ => ?_
    extract_lets behind
    have hbehind : ∀ isTemporary, Accounts (behind isTemporary) fun _ => True := fun isTemporary =>
      (plain_accept (by decide)).bind fun _ => .ite (htable isTemporary) <|
        (plain_accept (by decide)).bind fun _ => .ite (plain_createView isTemporary).accounts <|
          (plain_expect (by decide)).bind fun _ => (plain_createTrigger isTemporary).accounts
    exact .ite (plain_pure.bind hbehind) ((plain_accept (by decide)).bind hbehind)
  have hcommand : Accounts command fun _ => True :=
    (plain_accept (by decide)).bind fun _ => .ite hcreate <|
      (plain_accept (by decide)).bind fun _ => .ite plain_drop.accounts <|
        (plain_accept (by decide)).bind fun _ => .ite (plain_write .insert).accounts <|
          (plain_accept (by decide)).bind fun _ => .ite (plain_write .replace).accounts <|
            (plain_accept (by decide)).bind fun _ => .ite plain_delete.accounts <|
              plain_enoughFuel.bind fun fuel => (plainAt fuel).query.bind fun _ => accounts_pure
  have hend : Plain statementEnd := by
    intro ls
    refine accountsAt_peek ?_
    split
    · rename_i hfront
      exact accountsAt_skip (f := pure) (by rw [hfront]; rfl) accountsAt_pure
    · exact accountsAt_pure
    · exact accountsAt_failure
  exact hcommand.bind (fun _ => hend.bind fun _ => accounts_pure)
    fun _ _ => .bind fun _ => ensures_pure trivial

end Grammar

theorem exists_append_dropEmptyStatements (ls : List Lexeme) :
    ∃ empty, ls = empty ++ dropEmptyStatements ls ∧ ∀ l ∈ empty, l.token = .symbol ";" := by
  induction ls with
  | nil => exact ⟨[], rfl, by simp⟩
  | cons l ls ih =>
    rw [dropEmptyStatements]
    split
    · rename_i hl
      obtain ⟨empty, heq, hempty⟩ := ih
      exact ⟨l :: empty, by rw [List.cons_append, ← heq], by simpa [hl] using hempty⟩
    · exact ⟨[], rfl, by simp⟩

/-- A statement is read off the front of what is left. -/
theorem exists_of_readStatement {ls rest : List Lexeme} {s : Statement}
    (h : readStatement ls = .ok (some (s, rest))) :
    ∃ empty own, ls = empty ++ own ∧ (∀ l ∈ empty, l.token = .symbol ";") ∧
      Grammar.statement.run own = some (s, rest) := by
  obtain ⟨empty, heq, hempty⟩ := exists_append_dropEmptyStatements ls
  refine ⟨empty, _, heq, hempty, ?_⟩
  rw [readStatement] at h
  split at h
  · cases h
  · split at h
    · rename_i hrun
      cases h
      exact hrun
    · cases h

/-- What is left behind a statement is the end of what it was read from. -/
theorem readStatement_suffix {ls rest : List Lexeme} {s : Statement}
    (h : readStatement ls = .ok (some (s, rest))) : rest <:+ ls := by
  obtain ⟨empty, own, rfl, -, hrun⟩ := exists_of_readStatement h
  obtain ⟨taken, rfl, -⟩ := Grammar.accounts_statement _ _ _ hrun
  exact ⟨empty ++ taken, by simp⟩

end Tablewright.Sql
