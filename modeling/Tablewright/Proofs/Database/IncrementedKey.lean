import Tablewright.Proofs.Database.History
import Tablewright.Proofs.Sql.Increments

/-!
# The autoincremented key of a table

AUTOINCREMENT is applied to a column by a constraint on the column, or by a primary key of the table
that names it (`TableDefinition.increments`). A definition that makes sense applies it to one column
at most, which is then the whole primary key and has the type `INTEGER`
(`StoredTable.primaryKey_of_increments`), and to one column at least if the keyword is among its
constraints (`StoredTable.exists_increments`).
-/

namespace Tablewright

namespace Sql.TableDefinition

variable {d : TableDefinition} {keys : List DeclaredKey} {i : Nat}

/-- Whether a constraint on a table applies AUTOINCREMENT to the column at a position. -/
def constraintIncrements (d : TableDefinition) (position : Nat) : TableConstraint → Bool
  | .primaryKey terms autoIncrement =>
    autoIncrement && (d.termPositions? terms).any (·.contains position)
  | _ => false

/-- Whether a definition applies AUTOINCREMENT to the column at a position. -/
def increments (d : TableDefinition) (position : Nat) : Bool :=
  (d.columns[position]?.any fun c => c.constraints.any (·.isIncrement)) ||
    d.constraints.any (d.constraintIncrements position)

/-! ## Declared keys -/

theorem exists_mem_of_mapM {α β : Type} {f : α → Option β} {l : List α} {l' : List β}
    (h : l.mapM f = some l') {a : α} (ha : a ∈ l) : ∃ b ∈ l', f a = some b := by
  induction l generalizing l' with
  | nil => cases ha
  | cons c l ih =>
    simp only [List.mapM_cons, Option.bind_eq_bind, Option.bind_eq_some_iff, Option.pure_def,
      Option.some.injEq] at h
    obtain ⟨b, hb, rest, hrest, rfl⟩ := h
    rcases List.mem_cons.1 ha with rfl | ha
    · exact ⟨b, List.mem_cons_self, hb⟩
    · obtain ⟨b', hb', heq⟩ := ih hrest ha
      exact ⟨b', List.mem_cons_of_mem b hb', heq⟩

/-- The key for a constraint on a column. -/
theorem mem_keys_of_column (hkeys : declaredKeys? d = some keys) {c : ColumnDefinition}
    (hc : d.columns[i]? = some c) (hk : c.constraints.any (·.isIncrement) = true) :
    ∃ descending, .primary [i] descending true ∈ keys := by
  simp only [declaredKeys?, Option.bind_eq_bind, Option.bind_eq_some_iff] at hkeys
  obtain ⟨ofTable, -, hkeys⟩ := hkeys
  cases hkeys
  obtain ⟨k, hmem, hincrement⟩ := List.any_eq_true.1 hk
  cases k with
  | primaryKey descending autoIncrement =>
    obtain rfl : autoIncrement = true := hincrement
    refine ⟨descending, List.mem_append_left _ (List.mem_flatten.2 ⟨columnKeys i c, ?_, ?_⟩)⟩
    · exact List.mem_of_getElem? (i := i) (by simp [hc])
    · exact List.mem_filterMap.2 ⟨_, hmem, rfl⟩
  | _ => cases hincrement

/-- The key for a constraint on the table. -/
theorem mem_keys_of_table (hkeys : declaredKeys? d = some keys) {terms : List KeyTerm}
    (hk : .primaryKey terms true ∈ d.constraints) :
    ∃ positions, d.termPositions? terms = some positions ∧
      .primary positions false true ∈ keys := by
  simp only [declaredKeys?, Option.bind_eq_bind, Option.bind_eq_some_iff] at hkeys
  obtain ⟨ofTable, hofTable, hkeys⟩ := hkeys
  cases hkeys
  obtain ⟨ks, hks, heq⟩ := exists_mem_of_mapM hofTable hk
  simp only [tableKeys?, Option.bind_eq_bind, Option.bind_eq_some_iff] at heq
  obtain ⟨positions, hpositions, heq⟩ := heq
  cases heq
  exact ⟨positions, hpositions, List.mem_append_right _ (List.mem_flatten.2 ⟨_, hks, by simp⟩)⟩

/-- An autoincremented key names the columns that AUTOINCREMENT is applied to. -/
theorem mem_keys_of_increments (hkeys : declaredKeys? d = some keys) (h : d.increments i = true) :
    ∃ positions descending, i ∈ positions ∧ .primary positions descending true ∈ keys := by
  rcases Bool.or_eq_true_iff.1 h with h | h
  · obtain ⟨c, hc, hk⟩ := (Option.any_eq_true ..).1 h
    obtain ⟨descending, hmem⟩ := mem_keys_of_column hkeys hc hk
    exact ⟨[i], descending, List.mem_singleton.2 rfl, hmem⟩
  · obtain ⟨k, hk, h⟩ := List.any_eq_true.1 h
    cases k with
    | primaryKey terms autoIncrement =>
      obtain ⟨rfl, hterms⟩ := Bool.and_eq_true_iff.1 h
      obtain ⟨positions, hpositions, hmem⟩ := mem_keys_of_table hkeys hk
      rw [hpositions, Option.any_some, List.contains_iff_mem] at hterms
      exact ⟨positions, false, hterms, hmem⟩
    | _ => cases h

/-- A keyword among the constraints is that of a key. -/
theorem exists_key_of_declared (hkeys : declaredKeys? d = some keys)
    (h : Grammar.columnsIncrement d.columns ∨ Grammar.tableIncrements d.constraints) :
    ∃ positions descending, .primary positions descending true ∈ keys ∧
      ∀ i ∈ positions, d.increments i = true := by
  rcases h with ⟨c, hc, k, hk, hincrement⟩ | ⟨k, hk, hincrement⟩
  · obtain ⟨i, hi⟩ := List.mem_iff_getElem?.1 hc
    have hany : c.constraints.any (·.isIncrement) = true := List.any_eq_true.2 ⟨k, hk, hincrement⟩
    obtain ⟨descending, hmem⟩ := mem_keys_of_column hkeys hi hany
    refine ⟨[i], descending, hmem, fun j hj => ?_⟩
    rw [List.mem_singleton.1 hj, increments, hi, Option.any_some, hany, Bool.true_or]
  · cases k with
    | primaryKey terms autoIncrement =>
      obtain rfl : autoIncrement = true := hincrement
      obtain ⟨positions, hpositions, hmem⟩ := mem_keys_of_table hkeys hk
      refine ⟨positions, false, hmem, fun i hi => Bool.or_eq_true_iff.2 (.inr ?_)⟩
      refine List.any_eq_true.2 ⟨_, hk, ?_⟩
      rw [constraintIncrements, hpositions, Option.any_some, Bool.true_and, List.contains_iff_mem]
      exact hi
    | _ => cases hincrement

/-! ## The key of a table -/

/-- An autoincremented key that fits is one column of the type `INTEGER`, and the primary key. -/
theorem exists_column_of_key {primaryKey positions : List Nat} {descending : Bool}
    (hprimary : primaryColumns? keys = some primaryKey) (hfit : keysFit d keys = true)
    (hmem : .primary positions descending true ∈ keys) :
    ∃ p c, positions = [p] ∧ primaryKey = [p] ∧ d.columns[p]? = some c ∧
      c.declaredType = "INTEGER" := by
  have hrowid : (d.rowidColumn? (.primary positions descending true)).isSome = true := by
    have := List.all_eq_true.1 (Bool.and_eq_true_iff.1 hfit).1 _ hmem
    rw [DeclaredKey.isAutoIncrement, Bool.not_true, Bool.false_or] at this
    exact (Bool.and_eq_true_iff.1 this).1
  have hcolumns : positions ∈ keys.filterMap (·.primaryColumns?) :=
    List.mem_filterMap.2 ⟨_, hmem, rfl⟩
  have hkey : primaryKey = positions := by
    unfold primaryColumns? at hprimary
    split at hprimary
    · rename_i hnone
      rw [hnone] at hcolumns
      cases hcolumns
    · rename_i only hone
      rw [hone, List.mem_singleton] at hcolumns
      rw [hcolumns, Option.some.inj hprimary]
    · cases hprimary
  unfold rowidColumn? at hrowid
  split at hrowid
  · rename_i p _ heq
    cases heq
    split at hrowid
    · rename_i c hc
      split at hrowid
      · rename_i htype
        exact ⟨p, c, rfl, hkey, hc, htype⟩
      · cases hrowid
    · cases hrowid
  · cases hrowid

end Sql.TableDefinition

open Sql TableDefinition

variable {d : TableDefinition} {t : StoredTable}

/-- **An autoincremented column is the primary key**, and an `INTEGER`. -/
theorem StoredTable.primaryKey_of_increments (h : StoredTable.ofDefinition? d = some t) {i : Nat}
    (hi : d.increments i = true) :
    t.primaryKey = [i] ∧ ∃ c, t.columns[i]? = some c ∧ c.declaredType = "INTEGER" := by
  obtain ⟨keys, primaryKey, _, hkeys, hprimary, -, hfit, rfl⟩ := exists_of_ofDefinition? h
  obtain ⟨positions, descending, hmem, hkey⟩ := mem_keys_of_increments hkeys hi
  obtain ⟨p, c, rfl, rfl, hc, htype⟩ := exists_column_of_key hprimary hfit hkey
  obtain rfl := List.mem_singleton.1 hmem
  refine ⟨rfl, storedColumn c (d.withoutRowid && [i].contains i), ?_, htype⟩
  rw [List.getElem?_mapIdx, hc, Option.map_some]

/-- **A keyword that is declared is applied to the primary key.** -/
theorem StoredTable.exists_increments (h : StoredTable.ofDefinition? d = some t)
    (hdeclared : Grammar.columnsIncrement d.columns ∨ Grammar.tableIncrements d.constraints) :
    ∃ p, t.primaryKey = [p] ∧ d.increments p = true := by
  obtain ⟨keys, primaryKey, _, hkeys, hprimary, -, hfit, rfl⟩ := exists_of_ofDefinition? h
  obtain ⟨positions, descending, hkey, hincrements⟩ := exists_key_of_declared hkeys hdeclared
  obtain ⟨p, c, rfl, rfl, -, -⟩ := exists_column_of_key hprimary hfit hkey
  exact ⟨p, rfl, hincrements p (List.mem_singleton.2 rfl)⟩

end Tablewright
