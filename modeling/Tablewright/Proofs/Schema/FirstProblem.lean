import Mathlib.Data.List.Induction
import Mathlib.Data.List.Nodup
import Tablewright.Schema.Validation

/-!
# The first problem of a schema

What a sound schema is does not depend on the order in which it is read (`IsSoundSchema`), and the
first problem is the one that a reader meets behind tables, and columns of its table, that are sound
(`IsFirstProblem`). Tables and columns are tested by one scheme: things are read in order, and each
is tested for its name and then for itself (`firstMet?`). The test of a schema is exact
(`firstProblem?_eq_none_iff`, `firstProblem?_eq_some_iff`), and a problem that was met stays the
first one whatever follows.
-/

namespace Tablewright

/-! ## Sound schemas -/

/-- Columns of different names, with AUTOINCREMENT on INTEGER primary keys only. -/
structure AreSoundColumns (columns : List Column) : Prop where
  distinct : (columns.map (·.name)).Nodup
  increments : ∀ c ∈ columns, c.isAutoIncrement = true →
    c.isPrimaryKey = true ∧ c.affinity = .integer

/-- A table that code can be generated from. -/
structure Table.IsSound (t : Table) : Prop where
  nonempty : t.columns ≠ []
  columns : AreSoundColumns t.columns

/-- Tables of different names that code can be generated from. -/
structure IsSoundSchema (tables : List Table) : Prop where
  distinct : (tables.map (·.name)).Nodup
  tables : ∀ t ∈ tables, t.IsSound

/-- The first problem inside a table: the columns before it are sound. -/
inductive Table.IsFirstProblem (t : Table) : SchemaProblem → Prop
  | emptyTable : t.columns = [] → t.IsFirstProblem (.emptyTable t.name)
  | duplicateColumn {before after : List Column} {c : Column} :
    t.columns = before ++ c :: after → AreSoundColumns before →
      c.name ∈ before.map (·.name) → t.IsFirstProblem (.duplicateColumn t.name c.name)
  | invalidAutoIncrement {before after : List Column} {c : Column} :
    t.columns = before ++ c :: after → AreSoundColumns before → c.name ∉ before.map (·.name) →
      c.isAutoIncrement = true → ¬(c.isPrimaryKey = true ∧ c.affinity = .integer) →
      t.IsFirstProblem (.invalidAutoIncrement t.name c.name)

/-- The first problem of a schema: the tables before it are sound. -/
inductive IsFirstProblem (tables : List Table) : SchemaProblem → Prop
  | duplicateTable {before after : List Table} {t : Table} :
    tables = before ++ t :: after → IsSoundSchema before →
      t.name ∈ before.map (·.name) → IsFirstProblem tables (.duplicateTable t.name)
  | inside {before after : List Table} {t : Table} {p : SchemaProblem} :
    tables = before ++ t :: after → IsSoundSchema before → t.name ∉ before.map (·.name) →
      t.IsFirstProblem p → IsFirstProblem tables p

/-! ## Reading in order -/

section Reading

variable {α : Type} (name : α → String) (repeated : α → SchemaProblem)
  (problem? : α → Option SchemaProblem)

/-- The first problem of things that are read in order: a name that was seen before, or else a
problem of the thing itself. -/
def firstMet? (seen : List String) : List α → Option SchemaProblem
  | [] => none
  | x :: rest =>
    if name x ∈ seen then some (repeated x)
    else (problem? x).or (firstMet? (name x :: seen) rest)

variable {name repeated problem?} {seen : List String} {xs : List α} {p : SchemaProblem}

theorem firstMet?_append (ys : List α) : firstMet? name repeated problem? seen (xs ++ ys) =
    (firstMet? name repeated problem? seen xs).or
      (firstMet? name repeated problem? ((xs.map name).reverse ++ seen) ys) := by
  induction xs generalizing seen with
  | nil => rfl
  | cons x xs ih =>
    rw [List.cons_append, firstMet?, firstMet?]
    split
    · rfl
    · rw [ih, Option.or_assoc, List.map_cons, List.reverse_cons, List.append_assoc,
        List.singleton_append]

/-- Nothing is met if the names are new and different and the things are without problems. -/
theorem firstMet?_eq_none_iff : firstMet? name repeated problem? seen xs = none ↔
    (xs.map name).Nodup ∧ ∀ x ∈ xs, name x ∉ seen ∧ problem? x = none := by
  induction xs generalizing seen with
  | nil => simp [firstMet?]
  | cons x xs ih =>
    rw [firstMet?]
    split
    case isTrue hseen => simp [hseen]
    case isFalse hseen =>
      rw [Option.or_eq_none_iff, ih, List.map_cons, List.nodup_cons, List.forall_mem_cons]
      simp only [List.mem_cons, not_or, List.mem_map, not_exists, not_and, hseen, not_false_eq_true,
        true_and]
      constructor
      · rintro ⟨hx, hdistinct, hxs⟩
        exact ⟨⟨fun y hy => (hxs y hy).1.1, hdistinct⟩, hx,
          fun y hy => ⟨(hxs y hy).1.2, (hxs y hy).2⟩⟩
      · rintro ⟨⟨hnew, hdistinct⟩, hx, hxs⟩
        exact ⟨hx, hdistinct, fun y hy => ⟨⟨hnew y hy, (hxs y hy).1⟩, (hxs y hy).2⟩⟩

/-- What is met at a thing, behind others at which nothing is. -/
theorem firstMet?_concat {x : α} (h : firstMet? name repeated problem? [] xs = none) :
    firstMet? name repeated problem? [] (xs ++ [x]) =
      if name x ∈ xs.map name then some (repeated x) else problem? x := by
  rw [firstMet?_append, h, Option.none_or, firstMet?]
  simp only [firstMet?, List.append_nil, List.mem_reverse, Option.or_none]

/-- A problem is met at the end of some front part, in which nothing is met before. -/
theorem exists_of_firstMet? (h : firstMet? name repeated problem? [] xs = some p) :
    ∃ before x after, xs = before ++ x :: after ∧
      firstMet? name repeated problem? [] before = none ∧
      firstMet? name repeated problem? [] (before ++ [x]) = some p := by
  induction xs using List.reverseRecOn with
  | nil => cases h
  | append_singleton xs x ih =>
    cases hxs : firstMet? name repeated problem? [] xs with
    | none => exact ⟨xs, x, [], rfl, hxs, h⟩
    | some q =>
      rw [firstMet?_append, hxs, Option.some_or] at h
      obtain ⟨before, y, after, rfl, hbefore, hy⟩ := ih (hxs.trans h)
      exact ⟨before, y, after ++ [x], by simp, hbefore, hy⟩

/-- **The problem that is met first** is that of a thing behind others without problems: its name
is one of theirs, or else it has a problem itself. -/
theorem firstMet?_eq_some_iff : firstMet? name repeated problem? [] xs = some p ↔
    ∃ before x after, xs = before ++ x :: after ∧
      firstMet? name repeated problem? [] before = none ∧
      (if name x ∈ before.map name then some (repeated x) else problem? x) = some p := by
  constructor
  · intro h
    obtain ⟨before, x, after, rfl, hbefore, hx⟩ := exists_of_firstMet? h
    exact ⟨before, x, after, rfl, hbefore, (firstMet?_concat hbefore).symm.trans hx⟩
  · rintro ⟨before, x, after, rfl, hbefore, hx⟩
    rw [List.append_cons, firstMet?_append, firstMet?_concat hbefore, hx, Option.some_or]

end Reading

/-! ## Columns -/

theorem Column.autoIncrementAllowed_iff {c : Column} : c.autoIncrementAllowed = true ↔
    (c.isAutoIncrement = true → c.isPrimaryKey = true ∧ c.affinity = .integer) := by
  rw [autoIncrementAllowed]
  cases c.isAutoIncrement <;> simp

/-- The problem of a column itself. -/
def Column.problem? (table : String) (c : Column) : Option SchemaProblem :=
  if c.autoIncrementAllowed then none else some (.invalidAutoIncrement table c.name)

theorem Column.problem?_eq_none_iff {table : String} {c : Column} : c.problem? table = none ↔
    (c.isAutoIncrement = true → c.isPrimaryKey = true ∧ c.affinity = .integer) := by
  rw [← autoIncrementAllowed_iff, problem?]
  cases c.autoIncrementAllowed <;> simp

theorem Column.problem?_eq_some_iff {table : String} {c : Column} {p : SchemaProblem} :
    c.problem? table = some p ↔
      (c.isAutoIncrement = true ∧ ¬(c.isPrimaryKey = true ∧ c.affinity = .integer)) ∧
        .invalidAutoIncrement table c.name = p := by
  rw [← Classical.not_imp, ← autoIncrementAllowed_iff, problem?]
  cases c.autoIncrementAllowed <;> simp

theorem firstColumnProblem?_eq (table : String) (seen : List String) (columns : List Column) :
    firstColumnProblem? table seen columns =
      firstMet? (·.name) (fun c => .duplicateColumn table c.name) (·.problem? table) seen columns := by
  induction columns generalizing seen with
  | nil => rfl
  | cons c rest ih =>
    rw [firstColumnProblem?, firstMet?, ih, Column.problem?]
    cases c.autoIncrementAllowed <;> simp

theorem firstColumnProblem?_eq_none_iff {table : String} {columns : List Column} :
    firstColumnProblem? table [] columns = none ↔ AreSoundColumns columns := by
  rw [firstColumnProblem?_eq, firstMet?_eq_none_iff]
  simp only [List.not_mem_nil, not_false_eq_true, true_and, Column.problem?_eq_none_iff]
  exact ⟨fun h => ⟨h.1, h.2⟩, fun h => ⟨h.1, h.2⟩⟩

/-! ## Tables -/

theorem Table.problem?_of_nonempty {t : Table} (h : t.columns ≠ []) :
    t.problem? = firstColumnProblem? t.name [] t.columns := by
  rw [problem?]
  split
  · contradiction
  · rfl

theorem Table.problem?_eq_none_iff {t : Table} : t.problem? = none ↔ t.IsSound := by
  by_cases hempty : t.columns = []
  · have hsound : ¬t.IsSound := fun h => h.nonempty hempty
    simp [problem?, hempty, hsound]
  · rw [problem?_of_nonempty hempty, firstColumnProblem?_eq_none_iff]
    exact ⟨fun h => ⟨hempty, h⟩, fun h => h.columns⟩

theorem Table.problem?_eq_some_iff {t : Table} {p : SchemaProblem} :
    t.problem? = some p ↔ t.IsFirstProblem p := by
  constructor
  · intro h
    by_cases hempty : t.columns = []
    · rw [problem?, hempty] at h
      cases h
      exact .emptyTable hempty
    rw [problem?_of_nonempty hempty, firstColumnProblem?_eq, firstMet?_eq_some_iff] at h
    obtain ⟨before, c, after, hcolumns, hbefore, hc⟩ := h
    rw [← firstColumnProblem?_eq, firstColumnProblem?_eq_none_iff] at hbefore
    split at hc
    case isTrue hrepeated =>
      cases hc
      exact .duplicateColumn hcolumns hbefore hrepeated
    case isFalse hnew =>
      obtain ⟨⟨hincrement, hallowed⟩, rfl⟩ := Column.problem?_eq_some_iff.1 hc
      exact .invalidAutoIncrement hcolumns hbefore hnew hincrement hallowed
  · have hmet : ∀ {before after : List Column} {c : Column}, t.columns = before ++ c :: after →
        AreSoundColumns before →
        (if c.name ∈ before.map (·.name) then some (.duplicateColumn t.name c.name)
          else c.problem? t.name) = some p → t.problem? = some p := by
      intro before after c hcolumns hbefore hc
      rw [problem?_of_nonempty (by simp [hcolumns]), firstColumnProblem?_eq, firstMet?_eq_some_iff]
      rw [← firstColumnProblem?_eq_none_iff, firstColumnProblem?_eq] at hbefore
      exact ⟨before, c, after, hcolumns, hbefore, hc⟩
    intro h
    cases h with
    | emptyTable hempty => rw [problem?, hempty]
    | duplicateColumn hcolumns hbefore hrepeated =>
      exact hmet hcolumns hbefore (if_pos hrepeated)
    | invalidAutoIncrement hcolumns hbefore hnew hincrement hallowed =>
      refine hmet hcolumns hbefore ?_
      rw [if_neg hnew]
      exact Column.problem?_eq_some_iff.2 ⟨⟨hincrement, hallowed⟩, rfl⟩

/-! ## Schemas -/

theorem firstProblemAfter?_eq (seen : List String) (tables : List Table) :
    firstProblemAfter? seen tables =
      firstMet? (·.name) (fun t => .duplicateTable t.name) (·.problem?) seen tables := by
  induction tables generalizing seen with
  | nil => rfl
  | cons t rest ih =>
    rw [firstProblemAfter?, firstMet?, ih]
    cases t.problem? <;> rfl

/-- **A schema has no problem exactly if it is sound.** -/
theorem firstProblem?_eq_none_iff {tables : List Table} :
    firstProblem? tables = none ↔ IsSoundSchema tables := by
  rw [firstProblem?, firstProblemAfter?_eq, firstMet?_eq_none_iff]
  simp only [List.not_mem_nil, not_false_eq_true, true_and, Table.problem?_eq_none_iff]
  exact ⟨fun h => ⟨h.1, h.2⟩, fun h => ⟨h.1, h.2⟩⟩

/-- **The problem of a schema is the first one**, in the order in which it is read. -/
theorem firstProblem?_eq_some_iff {tables : List Table} {p : SchemaProblem} :
    firstProblem? tables = some p ↔ IsFirstProblem tables p := by
  have hsound : ∀ before : List Table, firstMet? (·.name)
      (fun t : Table => .duplicateTable t.name) (·.problem?) [] before = none ↔
        IsSoundSchema before := by
    intro before
    rw [← firstProblemAfter?_eq]
    exact firstProblem?_eq_none_iff
  rw [firstProblem?, firstProblemAfter?_eq, firstMet?_eq_some_iff]
  simp only [hsound]
  constructor
  · rintro ⟨before, t, after, htables, hbefore, ht⟩
    split at ht
    case isTrue hrepeated =>
      cases ht
      exact .duplicateTable htables hbefore hrepeated
    case isFalse hnew => exact .inside htables hbefore hnew (Table.problem?_eq_some_iff.1 ht)
  · intro h
    cases h with
    | duplicateTable htables hbefore hrepeated =>
      exact ⟨_, _, _, htables, hbefore, if_pos hrepeated⟩
    | inside htables hbefore hnew ht =>
      refine ⟨_, _, _, htables, hbefore, ?_⟩
      rw [if_neg hnew]
      exact Table.problem?_eq_some_iff.2 ht

/-- A problem that was met stays the first one. -/
theorem firstProblem?_append {tables : List Table} {p : SchemaProblem}
    (h : firstProblem? tables = some p) (more : List Table) :
    firstProblem? (tables ++ more) = some p := by
  rw [firstProblem?, firstProblemAfter?_eq] at h ⊢
  rw [firstMet?_append, h, Option.some_or]

/-- **The test of a schema is exact.** It finds no problem exactly if the schema is sound, otherwise
just the first one, and that stays the same whatever tables follow. -/
theorem firstProblem?_exact (tables : List Table) :
    (firstProblem? tables = none ↔ IsSoundSchema tables) ∧
      (∀ p, firstProblem? tables = some p ↔ IsFirstProblem tables p) ∧
      (∀ p more, firstProblem? tables = some p → firstProblem? (tables ++ more) = some p) :=
  ⟨firstProblem?_eq_none_iff, fun _ => firstProblem?_eq_some_iff,
    fun _ more h => firstProblem?_append h more⟩

/-- Tables with several faults: a misplaced AUTOINCREMENT, then a repeated column, then a table of a
repeated name that is empty as well. -/
def faultySchema : List Table :=
  [⟨"note", [.declare "id" .integer false true true]⟩,
    ⟨"tag", [.declare "x" .text true false false, .declare "y" .text false true true,
      .declare "x" .text false false false]⟩,
    ⟨"note", []⟩]

theorem firstProblem?_exact_of_faultySchema :
    firstProblem? faultySchema = some (.invalidAutoIncrement "tag" "y") ∧
      IsFirstProblem faultySchema (.invalidAutoIncrement "tag" "y") ∧
      firstProblem? (faultySchema ++ faultySchema) = some (.invalidAutoIncrement "tag" "y") := by
  have h : firstProblem? faultySchema = some (.invalidAutoIncrement "tag" "y") := by decide
  obtain ⟨-, hfirst, hmore⟩ := firstProblem?_exact faultySchema
  exact ⟨h, (hfirst _).1 h, hmore _ _ h⟩

end Tablewright
