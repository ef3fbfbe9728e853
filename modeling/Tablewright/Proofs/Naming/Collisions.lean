import Mathlib.Data.List.Nodup
import Tablewright.AccessModule.TableSection
import Tablewright.Proofs.Naming.Words
import Tablewright.Proofs.Sql.Evaluation

/-!
# The check of collisions is exact

The check passes exactly the schemas whose names generate distinct identifiers in every namespace
(`Distinct`), and then no item of the generated module is there twice (`ItemsDistinct`). What it
reports otherwise are two names of the schema, the earlier one first, that generate the identifier
it reports in one namespace, or a table that meets the constant of all tables (`Reported`):
`checkCollisions_exact`.

Every namespace is a list of entries, an identifier with the name it is generated for. The check
enters them one after the other into what it has seen, so entries are either free (`Seen.IsFree`) or
there is a first clash (`Seen.Clash`).
-/

namespace Tablewright.Naming

open AccessModule

/-! ## Entering entries -/

namespace Seen

variable {seen entries : Seen} {c : Collision}

/-- No identifier of the entries is there twice or was seen before. -/
def IsFree (seen entries : Seen) : Prop :=
  (entries.map (·.1)).Nodup ∧ ∀ e ∈ entries, e.1 ∉ seen.map (·.1)

/-- An entry meets one that stands before it or was seen before. -/
def Clash (seen entries : Seen) (c : Collision) : Prop :=
  ∃ before after, entries = before ++ (c.identifier, c.second) :: after ∧
    (c.identifier, c.first) ∈ before.reverse ++ seen

theorem isFree_nil (seen : Seen) : seen.IsFree [] := by
  simp [IsFree]

theorem isFree_cons {identifier source : String} :
    seen.IsFree ((identifier, source) :: entries) ↔
      identifier ∉ seen.map (·.1) ∧ IsFree ((identifier, source) :: seen) entries := by
  simp only [IsFree, List.map_cons, List.nodup_cons, List.mem_cons, forall_eq_or_imp, not_or]
  constructor
  · rintro ⟨⟨he, hnodup⟩, hseen, hfree⟩
    refine ⟨hseen, hnodup, fun d hd => ⟨?_, hfree d hd⟩⟩
    intro heq
    exact he (List.mem_map.2 ⟨d, hd, heq⟩)
  · rintro ⟨hseen, hnodup, hfree⟩
    refine ⟨⟨fun he => ?_, hnodup⟩, hseen, fun d hd => (hfree d hd).2⟩
    obtain ⟨d, hd, heq⟩ := List.mem_map.1 he
    exact (hfree d hd).1 heq

theorem isFree_append {more : Seen} :
    seen.IsFree (entries ++ more) ↔ seen.IsFree entries ∧ IsFree (entries.reverse ++ seen) more := by
  induction entries generalizing seen with
  | nil => simp [isFree_nil]
  | cons e entries ih =>
    obtain ⟨identifier, source⟩ := e
    rw [List.cons_append, isFree_cons, ih, isFree_cons, List.reverse_cons, List.append_assoc,
      and_assoc]
    rfl

theorem isFree_empty : IsFree [] entries ↔ (entries.map (·.1)).Nodup := by
  simp [IsFree]

theorem Clash.cons {e : String × String} (h : Clash (e :: seen) entries c) :
    seen.Clash (e :: entries) c := by
  obtain ⟨before, after, rfl, hmem⟩ := h
  exact ⟨e :: before, after, rfl, by simpa using hmem⟩

theorem Clash.append_right (h : seen.Clash entries c) (more : Seen) :
    seen.Clash (entries ++ more) c := by
  obtain ⟨before, after, rfl, hmem⟩ := h
  exact ⟨before, after ++ more, by simp, hmem⟩

theorem Clash.append_left {more : Seen} (h : Clash (entries.reverse ++ seen) more c) :
    seen.Clash (entries ++ more) c := by
  obtain ⟨before, after, rfl, hmem⟩ := h
  exact ⟨entries ++ before, after, by simp, by simpa using hmem⟩

/-- Entries that clash are not free. -/
theorem Clash.not_isFree (h : seen.Clash entries c) : ¬seen.IsFree entries := by
  obtain ⟨before, after, rfl, hmem⟩ := h
  rw [isFree_append, isFree_cons]
  rintro ⟨-, hnot, -⟩
  exact hnot (List.mem_map.2 ⟨_, hmem, rfl⟩)

/-- An identifier is entered if it was not seen before, and else clashes. -/
theorem add_cases (seen : Seen) (identifier source : String) (rest : Seen) :
    (identifier ∉ seen.map (·.1) ∧ seen.add identifier source = .ok ((identifier, source) :: seen)) ∨
      ∃ c, seen.add identifier source = .error c ∧ seen.Clash ((identifier, source) :: rest) c := by
  rw [add]
  cases hfind : seen.find? (·.1 == identifier) with
  | none =>
    refine .inl ⟨fun hmem => ?_, rfl⟩
    obtain ⟨e, he, heq⟩ := List.mem_map.1 hmem
    exact List.find?_eq_none.1 hfind e he (beq_iff_eq.2 heq)
  | some e =>
    obtain ⟨key, first⟩ := e
    obtain rfl : key = identifier := by simpa using List.find?_some hfind
    exact .inr ⟨⟨key, first, source⟩, rfl, [], rest, rfl, List.mem_of_find?_eq_some hfind⟩

end Seen

/-! ## Namespaces -/

/-- The entries of the tables, for functions and modules. -/
def tableEntries (tables : List Table) : Seen :=
  tables.map fun t => (snakeCase t.name, t.name)

/-- The entries of the types of tables. -/
def typeEntries (tables : List Table) : Seen :=
  tables.map fun t => (upperCamelCase t.name, t.name)

/-- The entries of columns as fields of a table. -/
def fieldEntries (t : Table) (columns : List Column) : Seen :=
  columns.map fun c => (fieldIdentifier c.name, t.qualified c)

/-- The entries of columns as variants. -/
def variantEntries (columns : List (Table × Column)) : Seen :=
  columns.map fun p => (variant p.1 p.2, p.1.qualified p.2)

section Columns

variable (t : Table) (c : Column) (columns : List Column)

theorem fieldEntries_cons : fieldEntries t (c :: columns) =
    (fieldIdentifier c.name, t.qualified c) :: fieldEntries t columns :=
  List.map_cons

theorem variantEntries_cons : variantEntries ((c :: columns).map fun c => (t, c)) =
    (variant t c, t.qualified c) :: variantEntries (columns.map fun c => (t, c)) :=
  List.map_cons

end Columns

/-- **The columns of a table are entered if they are free, and else there is a clash.** -/
theorem addColumns_cases (t : Table) (fields variants : Seen) (columns : List Column) :
    let entries := variantEntries (columns.map fun c => (t, c))
    (fields.IsFree (fieldEntries t columns) ∧ variants.IsFree entries ∧
        addColumns t fields variants columns = .ok (entries.reverse ++ variants)) ∨
      ∃ c, addColumns t fields variants columns = .error c ∧
        (fields.Clash (fieldEntries t columns) c ∨ variants.Clash entries c) := by
  induction columns generalizing fields variants with
  | nil => exact .inl ⟨Seen.isFree_nil _, Seen.isFree_nil _, rfl⟩
  | cons column rest ih =>
    simp only [fieldEntries_cons, variantEntries_cons]
    rw [addColumns]
    obtain ⟨hfield, hok⟩ | ⟨c, herror, hclash⟩ := fields.add_cases (fieldIdentifier column.name)
      (t.qualified column) (fieldEntries t rest)
    swap
    · exact .inr ⟨c, by rw [herror, error_bind], .inl hclash⟩
    rw [hok, ok_bind]
    obtain ⟨hvariant, hok⟩ | ⟨c, herror, hclash⟩ := variants.add_cases (variant t column)
      (t.qualified column) (variantEntries (rest.map fun c => (t, c)))
    swap
    · exact .inr ⟨c, by rw [herror, error_bind], .inr hclash⟩
    rw [hok, ok_bind]
    obtain ⟨hfields, hvariants, hok⟩ | ⟨c, herror, hclash⟩ := ih
      ((fieldIdentifier column.name, t.qualified column) :: fields)
      ((variant t column, t.qualified column) :: variants)
    · refine .inl ⟨Seen.isFree_cons.2 ⟨hfield, hfields⟩, Seen.isFree_cons.2 ⟨hvariant, hvariants⟩, ?_⟩
      rw [hok, List.reverse_cons, List.append_assoc, List.singleton_append]
    · exact .inr ⟨c, herror, hclash.imp Seen.Clash.cons Seen.Clash.cons⟩

/-- All entries of a schema are free, given what was seen before it. -/
structure AllFree (tables types variants : Seen) (schema : List Table) : Prop where
  notAll : ∀ t ∈ schema, screamingSnakeCase t.name ≠ "ALL"
  tables : tables.IsFree (tableEntries schema)
  types : types.IsFree (typeEntries schema)
  fields : ∀ t ∈ schema, Seen.IsFree [] (fieldEntries t t.columns)
  variants : variants.IsFree (variantEntries (allColumns schema))

/-- Where a collision of a schema comes from, given what was seen before it. -/
inductive ClashOf (tables types variants : Seen) (schema : List Table) (c : Collision) : Prop
  | builtin (t : Table) (ht : t ∈ schema) (hall : screamingSnakeCase t.name = "ALL")
    (hc : c = ⟨"ALL", t.name, "tables::ALL"⟩)
  | tables (h : tables.Clash (tableEntries schema) c)
  | types (h : types.Clash (typeEntries schema) c)
  | fields (t : Table) (ht : t ∈ schema) (h : Seen.Clash [] (fieldEntries t t.columns) c)
  | variants (h : variants.Clash (variantEntries (allColumns schema)) c)

theorem ClashOf.not_allFree {tables types variants : Seen} {schema : List Table} {c : Collision}
    (h : ClashOf tables types variants schema c) : ¬AllFree tables types variants schema := by
  intro hfree
  cases h with
  | builtin t ht hall _ => exact hfree.notAll t ht hall
  | tables h => exact h.not_isFree hfree.tables
  | types h => exact h.not_isFree hfree.types
  | fields t ht h => exact h.not_isFree (hfree.fields t ht)
  | variants h => exact h.not_isFree hfree.variants

section AddTables

variable {t : Table} (tables types variants : Seen) (rest : List Table)

theorem variantEntries_allColumns_cons : variantEntries (allColumns (t :: rest)) =
    variantEntries (t.columns.map fun c => (t, c)) ++ variantEntries (allColumns rest) := by
  rw [allColumns, List.flatMap_cons, variantEntries, List.map_append]
  rfl

theorem addTables_all (h : screamingSnakeCase t.name = "ALL") :
    addTables tables types variants (t :: rest) = .error ⟨"ALL", t.name, "tables::ALL"⟩ := by
  rw [addTables, if_pos h]
  rfl

theorem addTables_cons (h : screamingSnakeCase t.name ≠ "ALL") :
    addTables tables types variants (t :: rest) = (do
      let tables ← tables.add (snakeCase t.name) t.name
      let types ← types.add (upperCamelCase t.name) t.name
      let variants ← addColumns t [] variants t.columns
      addTables tables types variants rest) := by
  rw [addTables, if_neg h]

variable {tables types variants rest}

theorem AllFree.cons (hall : screamingSnakeCase t.name ≠ "ALL")
    (htable : snakeCase t.name ∉ tables.map (·.1)) (htype : upperCamelCase t.name ∉ types.map (·.1))
    (hfields : Seen.IsFree [] (fieldEntries t t.columns))
    (hvariants : variants.IsFree (variantEntries (t.columns.map fun c => (t, c))))
    (hrest : AllFree ((snakeCase t.name, t.name) :: tables) ((upperCamelCase t.name, t.name) :: types)
      ((variantEntries (t.columns.map fun c => (t, c))).reverse ++ variants) rest) :
    AllFree tables types variants (t :: rest) where
  notAll := List.forall_mem_cons.2 ⟨hall, hrest.notAll⟩
  tables := Seen.isFree_cons.2 ⟨htable, hrest.tables⟩
  types := Seen.isFree_cons.2 ⟨htype, hrest.types⟩
  fields := List.forall_mem_cons.2 ⟨hfields, hrest.fields⟩
  variants := by
    rw [variantEntries_allColumns_cons]
    exact Seen.isFree_append.2 ⟨hvariants, hrest.variants⟩

theorem ClashOf.cons {c : Collision} (h : ClashOf ((snakeCase t.name, t.name) :: tables)
      ((upperCamelCase t.name, t.name) :: types)
      ((variantEntries (t.columns.map fun c => (t, c))).reverse ++ variants) rest c) :
    ClashOf tables types variants (t :: rest) c := by
  cases h with
  | builtin u hu hall hc => exact .builtin u (List.mem_cons_of_mem t hu) hall hc
  | tables h => exact .tables h.cons
  | types h => exact .types h.cons
  | fields u hu h => exact .fields u (List.mem_cons_of_mem t hu) h
  | variants h =>
    refine .variants ?_
    rw [variantEntries_allColumns_cons]
    exact h.append_left

/-- A clash of columns is one of the schema. -/
theorem clashOf_columns {c : Collision} (h : Seen.Clash [] (fieldEntries t t.columns) c ∨
      variants.Clash (variantEntries (t.columns.map fun c => (t, c))) c) :
    ClashOf tables types variants (t :: rest) c := by
  rcases h with h | h
  · exact .fields t List.mem_cons_self h
  · refine .variants ?_
    rw [variantEntries_allColumns_cons]
    exact h.append_right _

end AddTables

/-- **The tables of a schema are entered if all entries are free, and else there is a clash.** -/
theorem addTables_cases (tables types variants : Seen) (schema : List Table) :
    (AllFree tables types variants schema ∧ addTables tables types variants schema = .ok ()) ∨
      ∃ c, addTables tables types variants schema = .error c ∧
        ClashOf tables types variants schema c := by
  induction schema generalizing tables types variants with
  | nil =>
    exact .inl ⟨⟨by simp, Seen.isFree_nil _, Seen.isFree_nil _, by simp, Seen.isFree_nil _⟩, rfl⟩
  | cons t rest ih =>
    by_cases hall : screamingSnakeCase t.name = "ALL"
    · exact .inr ⟨_, addTables_all _ _ _ _ hall, .builtin t List.mem_cons_self hall rfl⟩
    rw [addTables_cons _ _ _ _ hall]
    obtain ⟨htable, hok⟩ | ⟨c, herror, hclash⟩ := tables.add_cases (snakeCase t.name) t.name
      (tableEntries rest)
    swap
    · exact .inr ⟨c, by rw [herror, error_bind], .tables hclash⟩
    rw [hok, ok_bind]
    obtain ⟨htype, hok⟩ | ⟨c, herror, hclash⟩ := types.add_cases (upperCamelCase t.name) t.name
      (typeEntries rest)
    swap
    · exact .inr ⟨c, by rw [herror, error_bind], .types hclash⟩
    rw [hok, ok_bind]
    obtain ⟨hfields, hvariants, hok⟩ | ⟨c, herror, hclash⟩ := addColumns_cases t [] variants t.columns
    swap
    · exact .inr ⟨c, by rw [herror, error_bind], clashOf_columns hclash⟩
    rw [hok, ok_bind]
    obtain ⟨hfree, hok⟩ | ⟨c, herror, hclash⟩ := ih ((snakeCase t.name, t.name) :: tables)
      ((upperCamelCase t.name, t.name) :: types)
      ((variantEntries (t.columns.map fun c => (t, c))).reverse ++ variants)
    · exact .inl ⟨hfree.cons hall htable htype hfields hvariants, hok⟩
    · exact .inr ⟨c, herror, hclash.cons⟩

/-! ## Schemas without collisions -/

/-- The names of a schema generate distinct identifiers in every namespace. -/
structure Distinct (schema : List Table) : Prop where
  notAll : ∀ t ∈ schema, screamingSnakeCase t.name ≠ "ALL"
  tables : (schema.map fun t => snakeCase t.name).Nodup
  types : (schema.map fun t => upperCamelCase t.name).Nodup
  fields : ∀ t ∈ schema, (t.columns.map fun c => fieldIdentifier c.name).Nodup
  variants : ((allColumns schema).map fun p => variant p.1 p.2).Nodup

/-- All roles of parameter structs, in the order of a table's section. -/
def roles : List Role :=
  [.insert, .replace, .delete]

/-- No item of the generated module is there twice. -/
structure ItemsDistinct (schema : List Table) : Prop where
  functions : (schema.flatMap fun t => roles.map fun role => functionName role t).Nodup
  /-- The modules of the columns of a table. -/
  modules : (schema.map fun t => fieldIdentifier t.name).Nodup
  structs : (schema.flatMap fun t => roles.map fun role => structName role t).Nodup
  /-- The members of every parameter struct. -/
  members : ∀ t ∈ schema, ∀ role, ((members role t).map Member.identifier).Nodup
  /-- The variants of the enumeration of columns. -/
  variants : ((allColumns schema).map fun p => variant p.1 p.2).Nodup

theorem allFree_nil {tables : List Table} : AllFree [] [] [] tables ↔ Distinct tables := by
  have entries {α : Type} (l : List α) (key source : α → String) :
      Seen.IsFree [] (l.map fun a => (key a, source a)) ↔ (l.map key).Nodup := by
    rw [Seen.isFree_empty, List.map_map]
    rfl
  constructor
  · rintro ⟨hall, htables, htypes, hfields, hvariants⟩
    exact ⟨hall, (entries ..).1 htables, (entries ..).1 htypes,
      fun t ht => (entries ..).1 (hfields t ht), (entries ..).1 hvariants⟩
  · rintro ⟨hall, htables, htypes, hfields, hvariants⟩
    exact ⟨hall, (entries ..).2 htables, (entries ..).2 htypes,
      fun t ht => (entries ..).2 (hfields t ht), (entries ..).2 hvariants⟩

/-- What passes the check is distinct. -/
theorem distinct_of_checkCollisions {tables : List Table} (h : checkCollisions tables = .ok ()) :
    Distinct tables := by
  obtain ⟨hfree, -⟩ | ⟨c, herror, -⟩ := addTables_cases [] [] [] tables
  · exact allFree_nil.1 hfree
  · rw [checkCollisions, herror] at h
    cases h

/-! ### Items of tables -/

/-- Prefixes of different first characters tell the role. -/
theorem prefixed_inj {p : Role → String} (hne : ∀ r, (p r).toList ≠ [])
    (hhead : ∀ r r', (p r).toList.head? = (p r').toList.head? → r = r') {r r' : Role} {s s' : String}
    (h : p r ++ s = p r' ++ s') : r = r' ∧ s = s' := by
  have hlist := congrArg (fun name => name.toList.head?) h
  simp only [String.toList_append, List.head?_append_of_ne_nil _ (hne _)] at hlist
  obtain rfl := hhead r r' hlist
  exact ⟨rfl, (String.append_right_inj _).1 h⟩

theorem functionName_inj {r r' : Role} {t t' : Table} (h : functionName r t = functionName r' t') :
    r = r' ∧ snakeCase t.name = snakeCase t'.name :=
  prefixed_inj (by rintro ⟨⟩ <;> decide) (by rintro ⟨⟩ ⟨⟩ <;> decide) h

theorem structName_inj {r r' : Role} {t t' : Table} (h : structName r t = structName r' t') :
    r = r' ∧ upperCamelCase t.name = upperCamelCase t'.name :=
  prefixed_inj (by rintro ⟨⟩ <;> decide) (by rintro ⟨⟩ ⟨⟩ <;> decide)
    ((String.append_left_inj "Params").1 h)

/-- Items that tell their role and a key of their table are distinct if the keys are. -/
theorem nodup_perRole {tables : List Table} {item : Role → Table → String} {key : Table → String}
    (hitem : ∀ {r r' t t'}, item r t = item r' t' → r = r' ∧ key t = key t')
    (hkeys : (tables.map key).Nodup) :
    (tables.flatMap fun t => roles.map fun role => item role t).Nodup := by
  rw [List.nodup_flatMap]
  constructor
  · intro t _
    refine List.Nodup.map (fun r r' h => (hitem h).1) (by decide)
  · refine (List.pairwise_map.1 hkeys).imp fun {t t'} hne => ?_
    intro name h h'
    obtain ⟨r, -, hr⟩ := List.mem_map.1 h
    obtain ⟨r', -, hr'⟩ := List.mem_map.1 h'
    exact hne (hitem (hr.trans hr'.symm)).2

/-- The members of a struct stand for columns of the table, in its order. -/
theorem columns_members_sublist (role : Role) (t : Table) :
    ((members role t).map (·.column)).Sublist t.columns := by
  have hsame {presence : Column → Presence} (columns : List Column) :
      (columns.map fun c => (⟨c, presence c⟩ : Member)).map (·.column) = columns := by
    rw [List.map_map]
    exact List.map_id columns
  cases role with
  | insert =>
    rw [members, hsame]
    exact List.filter_sublist
  | replace => rw [members, hsame]
  | delete => rw [members, hsame]

theorem map_identifier (ms : List Member) : ms.map Member.identifier =
    (ms.map (·.column)).map fun c => fieldIdentifier c.name := by
  have hidentifier : Member.identifier = fun m => fieldIdentifier m.column.name := rfl
  rw [hidentifier, List.map_map, Function.comp_def]

/-- **Distinct identifiers make distinct items.** -/
theorem Distinct.items {tables : List Table} (h : Distinct tables) : ItemsDistinct tables where
  functions := nodup_perRole functionName_inj h.tables
  modules := by
    refine List.pairwise_map.2 ((List.pairwise_map.1 h.tables).imp fun {t t'} hne heq => ?_)
    exact hne (escapeKeyword_snakeCase_inj heq)
  structs := nodup_perRole structName_inj h.types
  members t ht role := by
    rw [map_identifier]
    exact (h.fields t ht).sublist ((columns_members_sublist role t).map _)
  variants := h.variants

/-! ## Reported collisions -/

/-- A collision reports two entries of a namespace, the earlier one first. -/
def Seen.Meets (entries : Seen) (c : Collision) : Prop :=
  ∃ i j : Nat, i < j ∧ entries[i]? = some (c.identifier, c.first) ∧
    entries[j]? = some (c.identifier, c.second)

theorem Seen.Clash.meets {entries : Seen} {c : Collision} (h : Seen.Clash [] entries c) :
    entries.Meets c := by
  obtain ⟨before, after, rfl, hmem⟩ := h
  rw [List.append_nil, List.mem_reverse] at hmem
  obtain ⟨i, hi, hget⟩ := List.mem_iff_getElem.1 hmem
  refine ⟨i, before.length, hi, ?_, ?_⟩
  · rw [List.getElem?_append_left hi, List.getElem?_eq_getElem hi, hget]
  · rw [List.getElem?_append_right (Nat.le_refl _), Nat.sub_self, List.getElem?_cons_zero]

/-- What a collision of a schema reports: a table that meets the constant of all tables, or two
entries of one namespace. -/
inductive Reported (tables : List Table) (c : Collision) : Prop
  | builtin (t : Table) (ht : t ∈ tables) (hall : screamingSnakeCase t.name = "ALL")
    (hc : c = ⟨"ALL", t.name, "tables::ALL"⟩)
  | tables (h : (tableEntries tables).Meets c)
  | types (h : (typeEntries tables).Meets c)
  | fields (t : Table) (ht : t ∈ tables) (h : (fieldEntries t t.columns).Meets c)
  | variants (h : (variantEntries (allColumns tables)).Meets c)

theorem ClashOf.reported {tables : List Table} {c : Collision} (h : ClashOf [] [] [] tables c) :
    Reported tables c := by
  cases h with
  | builtin t ht hall hc => exact .builtin t ht hall hc
  | tables h => exact .tables h.meets
  | types h => exact .types h.meets
  | fields t ht h => exact .fields t ht h.meets
  | variants h => exact .variants h.meets

/-- **The check passes exactly the schemas whose identifiers are distinct, and then no item is
there twice; a collision it reports is one of two entries, the earlier one first.** -/
theorem checkCollisions_exact (tables : List Table) :
    (checkCollisions tables = .ok () ↔ Distinct tables) ∧
      (checkCollisions tables = .ok () → ItemsDistinct tables) ∧
      ∀ c, checkCollisions tables = .error c → Reported tables c := by
  obtain ⟨hfree, hok⟩ | ⟨c, herror, hclash⟩ := addTables_cases [] [] [] tables
  · have hdistinct := allFree_nil.1 hfree
    refine ⟨⟨fun _ => hdistinct, fun _ => hok⟩, fun _ => hdistinct.items, fun c hc => ?_⟩
    rw [checkCollisions, hok] at hc
    cases hc
  · have hnot : checkCollisions tables ≠ .ok () := by
      rw [checkCollisions, herror]
      exact nofun
    refine ⟨⟨fun hok => absurd hok hnot, fun hdistinct => ?_⟩, fun hok => absurd hok hnot, ?_⟩
    · exact absurd (allFree_nil.2 hdistinct) hclash.not_allFree
    · intro d hd
      rw [checkCollisions, herror, Except.error.injEq] at hd
      exact hd ▸ hclash.reported

/-- Two tables and their columns may differ and still meet in a variant. -/
example : checkCollisions
    [⟨"a", [.declare "bC" .text false false false]⟩, ⟨"aB", [.declare "c" .text false false false]⟩] =
      .error ⟨"ABC", "a.bC", "aB.c"⟩ := by
  decide

end Tablewright.Naming
