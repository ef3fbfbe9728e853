import Tablewright.AccessModule.Call
import Tablewright.AccessModule.TableSection
import Tablewright.Proofs.Statement.Batch

/-!
# What parameter structs bind

The members of a parameter struct have values of their types (`Params`). The fields that a struct
binds are those of its members that are not left out (`names_boundFields`), so the column list of
the function that takes the struct has all of them, in its order (`supplied_boundFields`). Which
columns they are is told by the role of the struct (`boundFields_columns`).
-/

namespace Tablewright

/-- Whether a value is one of the type. -/
def MemberType.holds : MemberType → Value → Bool
  | .i64, .integer _ => true
  | .f64, .real _ => true
  | .string, .text _ => true
  | .bytes, .blob _ => true
  | _, _ => false

namespace AccessModule

/-- The values of the members of a struct: each has its type, only optional ones may be absent, and
there are no others. -/
structure Fits (role : Role) (t : Table) (value : Members) : Prop where
  typed : ∀ m ∈ members role t, ∀ v ∈ value m.column.name, m.type.holds v = true
  present : ∀ m ∈ members role t, m.presence.isOptional = false →
    (value m.column.name).isSome = true
  others : ∀ c, c ∉ columnNames role t → value c = none

/-- A parameter struct. -/
structure Params (role : Role) (t : Table) where
  value : Members
  fits : Fits role t value

/-- The struct whose rows a verb writes. -/
def writeRole : WriteVerb → Role
  | .insert => .insert
  | .replace => .replace

/-! ## Bound members -/

/-- Whether a struct binds a member. -/
def Member.isBound (value : Members) (m : Member) : Bool :=
  match m.presence with
  | .required _ => true
  | .omittable => (value m.column.name).isSome

/-- The field of a member that is bound. -/
def Member.field (value : Members) (m : Member) : String × Value :=
  (m.column.name, (value m.column.name).getD .null)

theorem Member.field?_eq (m : Member) (value : Members) :
    m.field? (value m.column.name) = if m.isBound value then some (m.field value) else none := by
  rw [field?, isBound, field]
  cases m.presence with
  | required nullable => rfl
  | omittable => cases value m.column.name <;> rfl

/-- A struct binds its bound members, in their order. -/
theorem boundFields_eq (role : Role) (t : Table) (value : Members) :
    boundFields role t value = ((members role t).filter (·.isBound value)).map (·.field value) := by
  rw [boundFields]
  simp only [Member.field?_eq]
  induction members role t with
  | nil => rfl
  | cons m rest ih =>
    rw [List.filterMap_cons, List.filter_cons, ih]
    cases m.isBound value <;> rfl

theorem names_boundFields (role : Role) (t : Table) (value : Members) :
    (boundFields role t value).names =
      ((members role t).filter (·.isBound value)).map (·.column.name) := by
  rw [boundFields_eq, Fields.names, List.map_map]
  rfl

/-- What a struct binds is up to its own members. -/
theorem boundFields_congr {role : Role} {t : Table} {value value' : Members}
    (h : ∀ c ∈ columnNames role t, value c = value' c) :
    boundFields role t value = boundFields role t value' := by
  refine List.filterMap_congr fun m hm => ?_
  rw [h _ (List.mem_map.2 ⟨m, hm, rfl⟩)]

theorem names_boundFields_sublist (role : Role) (t : Table) (value : Members) :
    (boundFields role t value).names.Sublist (columnNames role t) := by
  rw [names_boundFields, columnNames]
  exact List.filter_sublist.map _

/-- The bound fields name columns of the struct, each of them once. -/
theorem fits_boundFields {role : Role} {t : Table} (distinct : (columnNames role t).Nodup)
    (value : Members) : (boundFields role t value).FitsInto (columnNames role t) :=
  ⟨(names_boundFields_sublist role t value).nodup distinct,
    fun _ hc => (names_boundFields_sublist role t value).subset hc⟩

/-- **The column list has the bound columns, in their order.** -/
theorem supplied_boundFields {role : Role} {t : Table} (distinct : (columnNames role t).Nodup)
    (value : Members) :
    Batch.supplied (columnNames role t) (boundFields role t value) =
      (boundFields role t value).names := by
  have hsupplies : ∀ m ∈ members role t,
      (boundFields role t value).supplies m.column.name = m.isBound value := by
    intro m hm
    rw [Bool.eq_iff_iff, Fields.supplies_iff, names_boundFields]
    constructor
    · intro hname
      obtain ⟨m', hm', heq⟩ := List.mem_map.1 hname
      obtain ⟨hmem, hbound⟩ := List.mem_filter.1 hm'
      rwa [List.inj_on_of_nodup_map distinct hmem hm heq] at hbound
    · intro hbound
      exact List.mem_map.2 ⟨m, List.mem_filter.2 ⟨hm, hbound⟩, rfl⟩
  rw [Batch.supplied, columnNames, List.filter_map, names_boundFields]
  exact congrArg _ (List.filter_congr hsupplies)

/-! ## Bound columns -/

/-- Whether a struct binds a column: for a row to insert every column that the database does not
assign, for one to replace the key and what is there, for a filter what is there. -/
def binds (role : Role) (value : Members) (c : Column) : Bool :=
  match role with
  | .insert => !c.isAutoIncrement
  | .replace => c.isPrimaryKey || (value c.name).isSome
  | .delete => (value c.name).isSome

/-- **A struct binds the columns of its role**, in the order of the table, each to the value of its
member. -/
theorem boundFields_columns (role : Role) (t : Table) (value : Members) :
    boundFields role t value =
      (t.columns.filter (binds role value)).map fun c => (c.name, (value c.name).getD .null) := by
  have hpresence {presence : Column → Presence} (columns : List Column) :
      ((columns.map fun c => (⟨c, presence c⟩ : Member)).filter (·.isBound value)).map
          (·.field value) =
        (columns.filter fun c => (⟨c, presence c⟩ : Member).isBound value).map fun c =>
          (c.name, (value c.name).getD .null) := by
    rw [List.filter_map, List.map_map]
    rfl
  rw [boundFields_eq]
  cases role with
  | insert =>
    rw [members, Table.insertableColumns, hpresence, List.filter_filter]
    refine congrArg _ (List.filter_congr fun c _ => ?_)
    exact Bool.true_and _
  | replace =>
    rw [members, hpresence]
    refine congrArg _ (List.filter_congr fun c _ => ?_)
    rw [Member.isBound, binds]
    cases c.isPrimaryKey <;> rfl
  | delete =>
    rw [members, hpresence]
    rfl

theorem mem_names_boundFields {role : Role} {t : Table} (distinct : (t.columns.map (·.name)).Nodup)
    (value : Members) {c : Column} (hc : c ∈ t.columns) :
    c.name ∈ (boundFields role t value).names ↔ binds role value c = true := by
  rw [boundFields_columns, Fields.names, List.map_map]
  constructor
  · intro h
    obtain ⟨c', hc', hname⟩ := List.mem_map.1 h
    obtain ⟨hmem, hbinds⟩ := List.mem_filter.1 hc'
    rwa [List.inj_on_of_nodup_map distinct hmem hc hname] at hbinds
  · intro h
    exact List.mem_map.2 ⟨c, List.mem_filter.2 ⟨hc, h⟩, rfl⟩

/-- Rows to replace have the same columns if the same members are there, apart from the key. -/
theorem sameColumns_replace_iff {t : Table} (distinct : (t.columns.map (·.name)).Nodup)
    (a b : Members) :
    (boundFields .replace t a).SameColumns (boundFields .replace t b) ↔
      ∀ c ∈ t.columns, c.isPrimaryKey = false → (a c.name).isSome = (b c.name).isSome := by
  constructor
  · intro h c hc hkey
    have hsame := h c.name
    rw [mem_names_boundFields distinct a hc, mem_names_boundFields distinct b hc, binds, binds,
      hkey, Bool.false_or, Bool.false_or] at hsame
    exact Bool.eq_iff_iff.2 hsame
  · intro h
    have hbinds : t.columns.filter (binds .replace a) = t.columns.filter (binds .replace b) := by
      refine List.filter_congr fun c hc => ?_
      rw [binds, binds]
      cases hkey : c.isPrimaryKey with
      | false => rw [h c hc hkey]
      | true => rfl
    intro n
    rw [boundFields_columns, boundFields_columns, Fields.names, Fields.names, List.map_map,
      List.map_map, hbinds]
    rfl

/-! ## Batches of rows to insert -/

/-- A struct for a row to insert binds all of its members. -/
theorem names_boundFields_insert (t : Table) (value : Members) :
    (boundFields .insert t value).names = columnNames .insert t := by
  have hbound : ∀ m ∈ members .insert t, m.isBound value = true := by
    intro m hm
    obtain ⟨c, -, rfl⟩ := List.mem_map.1 hm
    rfl
  rw [names_boundFields, List.filter_eq_self.2 hbound, columnNames]

/-- **A batch of rows to insert has a statement if it has a row.** -/
theorem statement_insert_eq_error_iff {t : Table} (distinct : (columnNames .insert t).Nodup)
    (table : String) (rows : List Members) (e : BatchError) :
    Batch.statement .insert table (columnNames .insert t) (rows.map (boundFields .insert t)) =
      .error e ↔ rows = [] ∧ e = .empty table := by
  cases rows with
  | nil =>
    have hnil : Batch.statement .insert table (columnNames .insert t) [] = .error (.empty table) :=
      rfl
    rw [List.map_nil, hnil, Except.error.injEq, eq_comm]
    simp
  | cons first rest =>
    rw [List.map_cons, Batch.statement_eq_error_iff .insert (fits_boundFields distinct first)
      (by simpa using fun value _ => fits_boundFields distinct value)]
    refine ⟨fun ⟨index, row, hmismatch, _⟩ => absurd ?_ hmismatch.differs, fun ⟨h, _⟩ => by cases h⟩
    obtain ⟨value, -, rfl⟩ :=
      List.mem_map.1 (List.map_cons ▸ List.mem_of_getElem? hmismatch.at_index)
    intro c
    rw [names_boundFields_insert, names_boundFields_insert]

end AccessModule

end Tablewright
