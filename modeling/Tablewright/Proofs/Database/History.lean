import Tablewright.Database.Script
import Tablewright.Proofs.Database.Rows

/-!
# Where tables come from

A table of a database is what its definition made it, but for its rows and its counter
(`StoredTable.emptied`). Writes and deletions keep the tables of a schema (`KeepsTables`), and a
statement that succeeds adds at most the table that it defines (`run_follows`). So after a script
every table comes from a definition that was read in the script, and no two tables or views of a
schema share a name (`runScript_history`).
-/

namespace Tablewright

open Sql

/-- The table as its definition made it. -/
def StoredTable.emptied (t : StoredTable) : StoredTable :=
  { t with rows := [], counter := 0 }

/-! ## Schemas -/

namespace Schema

/-- The names of the tables and views, in lower case. -/
def relationKeys (s : Schema) : List String :=
  (s.filterMap (·.relationName?)).map Text.lowerAscii

theorem hasRelation_iff {s : Schema} {name : String} :
    s.hasRelation name = true ↔ Text.lowerAscii name ∈ s.relationKeys := by
  rw [hasRelation, relationKeys, List.any_eq_true, List.mem_map]
  simp only [Text.sameName_iff]

theorem relationKeys_append (s s' : Schema) :
    relationKeys (s ++ s') = s.relationKeys ++ s'.relationKeys := by
  rw [relationKeys, List.filterMap_append, List.map_append]
  rfl

theorem sublist_relationKeys (s : Schema) :
    (s.tables.map fun t => Text.lowerAscii t.name).Sublist s.relationKeys := by
  induction s with
  | nil => exact .slnil
  | cons o rest ih =>
    cases o with
    | table t => exact ih.cons_cons _
    | view name => exact ih.cons _
    | _ => exact ih

theorem tables_append (s s' : Schema) : tables (s ++ s') = s.tables ++ s'.tables :=
  List.filterMap_append

theorem hasRelation_append {s s' : Schema} {name : String} :
    hasRelation (s ++ s') name = true ↔ s.hasRelation name = true ∨ s'.hasRelation name = true := by
  rw [hasRelation, List.filterMap_append, List.any_append, Bool.or_eq_true]
  rfl

theorem isSome_index?_append {s s' : Schema} {name : String} :
    (index? (s ++ s') name).isSome = true ↔
      (s.index? name).isSome = true ∨ (s'.index? name).isSome = true := by
  rw [index?, List.filterMap_append, List.find?_append, Option.isSome_or, Bool.or_eq_true]
  rfl

/-- What a new table adds to a schema. -/
theorem exists_of_addTable (s : Schema) (t : StoredTable) :
    ∃ added : Schema, Database.addTable s t = s ++ added ∧ added.tables = [t] ∧
      added.filterMap (·.relationName?) = [t.name] ∧ added.filterMap (·.index?) = [] := by
  refine ⟨_, rfl, ?_⟩
  split <;> exact ⟨rfl, rfl, rfl⟩

theorem mem_tables {s : Schema} {t : StoredTable} : t ∈ s.tables ↔ .table t ∈ s := by
  simp only [tables, List.mem_filterMap]
  constructor
  · rintro ⟨o, ho, ht⟩
    cases o with
    | table t' => cases ht; exact ho
    | _ => cases ht
  · exact fun h => ⟨_, h, rfl⟩

theorem mem_tables_of_table? {s : Schema} {name : String} {t : StoredTable}
    (h : s.table? name = some t) : t ∈ s.tables ∧ Text.sameName t.name name = true := by
  rw [table?] at h
  exact ⟨List.mem_of_find?_eq_some h, by simpa using List.find?_some h⟩

theorem hasRelation_of_mem {s : Schema} {t : StoredTable} (h : t ∈ s.tables) :
    s.hasRelation t.name = true := by
  rw [hasRelation, List.any_eq_true]
  exact ⟨t.name, List.mem_filterMap.2 ⟨_, mem_tables.1 h, rfl⟩, Text.sameName_refl _⟩

/-- A table is found under its name if no other one has it. -/
theorem table?_of_mem {s : Schema} {t : StoredTable} (h : t ∈ s.tables)
    (distinct : s.relationKeys.Nodup) : s.table? t.name = some t := by
  induction s with
  | nil => simp [tables] at h
  | cons o rest ih =>
    have hkeys : relationKeys (o :: rest) = relationKeys [o] ++ relationKeys rest :=
      relationKeys_append [o] rest
    rw [hkeys, List.nodup_append] at distinct
    rw [mem_tables, List.mem_cons, ← mem_tables] at h
    rcases h with rfl | h
    · simp [table?, tables, DatabaseObject.table?, Text.sameName_refl]
    · have hkey : Text.lowerAscii t.name ∈ relationKeys rest :=
        hasRelation_iff.1 (hasRelation_of_mem h)
      have hrest := ih h distinct.2.1
      cases o with
      | table t' =>
        have hne : Text.sameName t'.name t.name = false := by
          rw [Bool.eq_false_iff]
          intro hsame
          refine distinct.2.2 (Text.lowerAscii t'.name) ?_ _ hkey (Text.sameName_iff.1 hsame)
          simp [relationKeys, DatabaseObject.relationName?]
        simpa [table?, tables, DatabaseObject.table?, hne] using hrest
      | _ => simpa [table?, tables, DatabaseObject.table?] using hrest

/-! ## Schemas that keep their tables -/

/-- A schema has become another one, in which only rows and counters differ. -/
structure KeepsTables (s s' : Schema) : Prop where
  keys : s'.relationKeys = s.relationKeys
  tables : ∀ t' ∈ s'.tables, ∃ t ∈ s.tables, t'.emptied = t.emptied

theorem KeepsTables.refl (s : Schema) : KeepsTables s s :=
  ⟨rfl, fun t h => ⟨t, h, rfl⟩⟩

theorem KeepsTables.trans {s s' s'' : Schema} (h : KeepsTables s s') (h' : KeepsTables s' s'') :
    KeepsTables s s'' := by
  refine ⟨h'.keys.trans h.keys, fun t'' ht'' => ?_⟩
  obtain ⟨t', ht', heq'⟩ := h'.tables t'' ht''
  obtain ⟨t, ht, heq⟩ := h.tables t' ht'
  exact ⟨t, ht, heq'.trans heq⟩

/-- Putting a table in place of one that differs in its rows only. -/
theorem keepsTables_setTable {s : Schema} {t t₀ : StoredTable} (h : t₀ ∈ s.tables)
    (heq : t.emptied = t₀.emptied) : KeepsTables s (s.setTable t) := by
  constructor
  · simp only [relationKeys, setTable, List.filterMap_map]
    rw [List.map_filterMap, List.map_filterMap]
    refine List.filterMap_congr fun o _ => ?_
    cases o with
    | table old =>
      simp only [Function.comp_apply]
      split
      · rename_i hsame
        simpa [DatabaseObject.relationName?] using (Text.sameName_iff.1 hsame).symm
      · rfl
    | _ => rfl
  · intro t' ht'
    obtain ⟨o, ho, hmap⟩ := List.mem_map.1 (mem_tables.1 ht')
    cases o with
    | table old =>
      simp only at hmap
      split at hmap
      · cases hmap
        exact ⟨t₀, h, heq⟩
      · cases hmap
        exact ⟨_, mem_tables.2 ho, rfl⟩
    | _ => cases hmap

open Database

theorem keepsTables_of_forall₂ {before s₀ s s' : Schema}
    (h : List.Forall₂ (fun o o' => settleObject before s₀ o = .ok o') s s') : KeepsTables s s' := by
  induction h with
  | nil => exact .refl []
  | @cons o o' rest rest' ho _ ih =>
    have hone : KeepsTables [o] [o'] := by
      cases o with
      | table t =>
        rw [settleObject] at ho
        cases ht : settleTable before s₀ t with
        | error e => rw [ht] at ho; cases ho
        | ok t' =>
          rw [ht] at ho
          cases ho
          have heq : t'.emptied = t.emptied ∧ t'.name = t.name := by
            rw [settleTable] at ht
            cases hrows : t.rows.mapM (settleRow before s₀ t) with
            | error e => rw [hrows] at ht; cases ht
            | ok rows =>
              rw [hrows] at ht
              cases ht
              exact ⟨rfl, rfl⟩
          refine ⟨by simp [relationKeys, DatabaseObject.relationName?, heq.2], fun t'' ht'' => ?_⟩
          obtain rfl : t'' = t' := by simpa [tables, DatabaseObject.table?] using ht''
          exact ⟨t, by simp [tables, DatabaseObject.table?], heq.1⟩
      | _ => cases ho; exact .refl _
    refine ⟨?_, fun t' ht' => ?_⟩
    · rw [show o' :: rest' = [o'] ++ rest' from rfl, show o :: rest = [o] ++ rest from rfl,
        relationKeys_append, relationKeys_append, hone.keys, ih.keys]
    · rw [mem_tables, List.mem_cons, ← mem_tables] at ht'
      rcases ht' with rfl | ht'
      · obtain ⟨t, ht, heq⟩ := hone.tables t' (mem_tables.2 (by simp))
        exact ⟨t, mem_tables.2 (List.mem_cons.2 (.inl (by simpa using mem_tables.1 ht))), heq⟩
      · obtain ⟨t, ht, heq⟩ := ih.tables t' ht'
        exact ⟨t, mem_tables.2 (List.mem_cons_of_mem _ (mem_tables.1 ht)), heq⟩

theorem keepsTables_settle {before s s' : Schema} (h : settle before s = .ok s') : KeepsTables s s' := by
  rw [settle] at h
  generalize settlingBound s = n at h
  induction n generalizing s with
  | zero => cases h; exact .refl _
  | succ n ih =>
    rw [settleTimes] at h
    cases hs : s.mapM (settleObject before s) with
    | error e => rw [hs, error_bind] at h; cases h
    | ok settled =>
      rw [hs, ok_bind] at h
      split at h
      · cases h; exact .refl _
      · exact (keepsTables_of_forall₂ (mapM_eq_ok_iff.1 hs)).trans (ih h)

theorem keepsTables_deleteRows {s s' : Schema} {t : StoredTable} {gone : Row → Bool}
    (ht : t ∈ s.tables) (h : deleteRows s t gone = .ok s') : KeepsTables s s' := by
  rw [deleteRows] at h
  refine .trans ?_ (keepsTables_settle h)
  exact keepsTables_setTable ht rfl

/-! ## Writing a row -/

theorem keepsTables_freeKey {verb : WriteVerb} {s s' : Schema} {table : String}
    {taken : StoredTable → Failure} {collides : Row → Bool}
    (h : freeKey verb s table taken collides = .ok s') : KeepsTables s s' := by
  rw [freeKey] at h
  cases ht : s.table? table with
  | none => rw [ht] at h; cases h
  | some t =>
    rw [ht] at h
    simp only at h
    split at h
    · cases h; exact .refl _
    · cases verb with
      | insert => cases h
      | replace => exact keepsTables_deleteRows (mem_tables_of_table? ht).1 h

theorem keepsTables_freeKeys {verb : WriteVerb} {s s' : Schema} {t : StoredTable} {row : Row}
    (h : freeKeys verb s t row = .ok s') : KeepsTables s s' := by
  have hkeys : ∀ {s₁ : Schema} {ks : List Key}, ks.foldlM
      (fun s k => freeKey verb s t.name (keyTaken · k) fun other => takesKey k row other) s₁ = .ok s' →
      KeepsTables s₁ s' :=
    fun h => foldlM_keeps (R := KeepsTables) .refl .trans keepsTables_freeKey h
  rw [freeKeys] at h
  split at h
  · rw [pure_bind] at h
    exact hkeys h
  · cases hid : freeKey verb s t.name rowidTaken fun other => other.id == row.id with
    | error e => rw [hid] at h; cases h
    | ok s₁ =>
      rw [hid, ok_bind] at h
      exact (keepsTables_freeKey hid).trans (hkeys h)

theorem keepsTables_addRowTo {s s' : Schema} {table : String} {row : Row}
    (h : addRowTo s table row = .ok s') : KeepsTables s s' := by
  rw [addRowTo] at h
  cases ht : s.table? table with
  | none => rw [ht] at h; cases h
  | some t =>
    rw [ht] at h
    cases h
    exact keepsTables_setTable (mem_tables_of_table? ht).1 rfl

theorem keepsTables_restoreCounter (s : Schema) (table : String) (counter : Int) :
    KeepsTables s (restoreCounter s table counter) := by
  rw [restoreCounter]
  split
  · rename_i t ht
    exact keepsTables_setTable (mem_tables_of_table? ht).1 rfl
  · exact .refl s

end Schema

/-! ## Databases that keep their tables -/

namespace Database

/-- A database has become another one, in which only rows and counters differ. -/
def KeepsTables (db db' : Database) : Prop :=
  ∀ kind, Schema.KeepsTables (db.schema kind) (db'.schema kind)

theorem KeepsTables.refl (db : Database) : KeepsTables db db :=
  fun _ => .refl _

theorem KeepsTables.trans {db db' db'' : Database} (h : KeepsTables db db')
    (h' : KeepsTables db' db'') : KeepsTables db db'' :=
  fun kind => (h kind).trans (h' kind)

theorem keepsTables_setSchema {db : Database} {kind : SchemaKind} {s : Schema}
    (h : Schema.KeepsTables (db.schema kind) s) : KeepsTables db (db.setSchema kind s) := by
  intro k
  cases kind <;> cases k <;> first | exact h | exact .refl _

theorem keepsTables_writeRow {verb : WriteVerb} {atOnce : Bool} {db db' : Database}
    {kind : SchemaKind} {t : StoredTable} {r : NewRow} {id : Int}
    (h : writeRow verb atOnce db kind t r = .ok (db', id)) : KeepsTables db db' := by
  rw [writeRow_eq] at h
  obtain ⟨supplied, -, h⟩ := exists_of_bind_eq_ok h
  extract_lets write at h
  have h : write () = .ok (db', id) := by
    split at h
    · obtain ⟨_, -, h⟩ := exists_of_bind_eq_ok h
      obtain ⟨_, -, h⟩ := exists_of_bind_eq_ok h
      exact h
    · exact h
  obtain ⟨_, -, h⟩ := exists_of_bind_eq_ok h
  obtain ⟨_, -, h⟩ := exists_of_bind_eq_ok h
  obtain ⟨_, -, h⟩ := exists_of_bind_eq_ok h
  obtain ⟨s, hs, h⟩ := exists_of_bind_eq_ok h
  obtain ⟨written, hwritten, h⟩ := exists_of_bind_eq_ok h
  extract_lets finish at h
  have h : finish () = .ok (db', id) := by
    split at h
    · obtain ⟨_, hthrow, -⟩ := exists_of_bind_eq_ok h
      cases hthrow
    · exact h
  obtain ⟨_, -, h⟩ := exists_of_bind_eq_ok h
  cases h
  exact keepsTables_setSchema ((Schema.keepsTables_freeKeys hs).trans
    (Schema.keepsTables_addRowTo hwritten))

theorem keepsTables_writeRows (verb : WriteVerb) (atOnce : Bool) (kind : SchemaKind)
    (table : String) (rows : List NewRow) (p : Progress) :
    KeepsTables p.database (writeRows verb atOnce kind table rows p).1.database := by
  induction rows generalizing p with
  | nil => exact .refl _
  | cons r rest ih =>
    rw [writeRows]
    split
    · exact .refl _
    · split
      · rename_i db id hrow
        exact (keepsTables_writeRow hrow).trans (ih ⟨db, _⟩)
      · exact ih p
      · exact .refl _

theorem keepsTables_atEnd {db : Database} {kind : SchemaKind} {p : Progress}
    (result : Except Failure (List (List Value))) (h : KeepsTables db p.database) :
    KeepsTables db (db.atEnd kind p result).database := by
  rw [atEnd]
  split
  · exact .refl db
  · exact h

theorem keepsTables_runWrite {db : Database} {lastId : Int} {parameter : String → Value}
    {verb : WriteVerb} {w : PreparedWrite} {rows : List (List Expr)} :
    KeepsTables db (db.runWrite lastId parameter verb w rows).database := by
  rw [runWrite]
  split
  · exact .refl db
  · rename_i values _
    have h := keepsTables_writeRows verb w.atOnce w.kind w.table.name
      (values.map (newRow w.table w.targets)) ⟨db, lastId⟩
    dsimp only
    split
    · rename_i p hp
      rw [hp] at h
      exact keepsTables_atEnd _ h
    · rename_i p message hp
      rw [hp] at h
      exact keepsTables_atEnd _ (h.trans (keepsTables_setSchema (Schema.keepsTables_restoreCounter ..)))
    · exact .refl db

/-! ## Deletions -/

theorem keepsTables_deleteRow {db db' : Database} {kind : SchemaKind} {table : String} {row : Row}
    (h : db.deleteRow kind table row = .ok db') : KeepsTables db db' := by
  rw [deleteRow] at h
  split at h
  · cases h
  · rename_i t ht
    split at h
    · cases h; exact .refl _
    · obtain ⟨_, -, h⟩ := exists_of_bind_eq_ok h
      obtain ⟨s, hs, h⟩ := exists_of_bind_eq_ok h
      obtain ⟨_, -, h⟩ := exists_of_bind_eq_ok h
      cases h
      exact keepsTables_setSchema
        (Schema.keepsTables_deleteRows (Schema.mem_tables_of_table? ht).1 hs)

theorem keepsTables_deleteEach (kind : SchemaKind) (table : String) (rows : List Row)
    (p : Progress) : KeepsTables p.database (deleteEach kind table rows p).1.database := by
  induction rows generalizing p with
  | nil => exact .refl _
  | cons row rest ih =>
    rw [deleteEach]
    split
    · rename_i db hrow
      exact (keepsTables_deleteRow hrow).trans (ih ⟨db, _⟩)
    · exact ih p
    · exact .refl _

theorem keepsTables_runDelete {db : Database} {lastId : Int} {parameter : String → Value}
    {kind : SchemaKind} {t : StoredTable} {condition : Expr} :
    KeepsTables db (db.runDelete lastId parameter kind t condition).database := by
  rw [runDelete]
  split
  · exact .refl db
  · rename_i rows _
    have h := keepsTables_deleteEach kind t.name rows ⟨db, lastId⟩
    split
    · rename_i p hp
      rw [hp] at h
      exact keepsTables_atEnd _ h
    · rename_i p message hp
      rw [hp] at h
      exact keepsTables_atEnd _ h
    · exact .refl db

end Database

/-! ## What a statement adds -/

open TableDefinition in
/-- What a table is that a definition makes, and what the definition has to satisfy. -/
theorem StoredTable.exists_of_ofDefinition? {d : TableDefinition} {t : StoredTable}
    (h : StoredTable.ofDefinition? d = some t) : ∃ keys primaryKey foreignKeys,
      declaredKeys? d = some keys ∧ primaryColumns? keys = some primaryKey ∧
      columnsDiffer d.columns = true ∧ keysFit d keys = true ∧
      t = { name := d.name.name
            columns := d.columns.mapIdx fun i c =>
              storedColumn c (d.withoutRowid && primaryKey.contains i)
            primaryKey
            rowidColumn := if d.withoutRowid then none else keys.findSome? (rowidColumn? d)
            isAutoIncrement := keys.any (·.isAutoIncrement)
            isWithoutRowid := d.withoutRowid
            checks := TableDefinition.checks d
            keys := TableDefinition.uniqueKeys d keys
            foreignKeys
            source := d.source
            rows := []
            counter := 0 } := by
  simp only [ofDefinition?, Option.bind_eq_bind, Option.bind_eq_some_iff,
    Option.ite_none_right_eq_some, Bool.and_eq_true] at h
  obtain ⟨keys, hkeys, primaryKey, hprimary, foreignKeys, -, ⟨⟨⟨hdiffer, hfit⟩, -⟩, -⟩, h⟩ := h
  exact ⟨keys, primaryKey, foreignKeys, hkeys, hprimary, hdiffer, hfit, (Option.some.inj h).symm⟩

theorem StoredTable.emptied_of_ofDefinition? {d : TableDefinition} {t : StoredTable}
    (h : StoredTable.ofDefinition? d = some t) : t.emptied = t ∧ t.name = d.name.name := by
  obtain ⟨_, _, _, -, -, -, -, rfl⟩ := exists_of_ofDefinition? h
  exact ⟨rfl, rfl⟩

theorem StoredTable.names_of_ofDefinition? {d : TableDefinition} {t : StoredTable}
    (h : StoredTable.ofDefinition? d = some t) :
    t.columns.map (·.name) = d.columns.map (·.name) := by
  obtain ⟨_, _, _, -, -, -, -, rfl⟩ := exists_of_ofDefinition? h
  refine List.ext_getElem (by simp) fun i _ _ => ?_
  simp [TableDefinition.storedColumn]

theorem nodup_of_columnsDiffer {columns : List ColumnDefinition}
    (h : TableDefinition.columnsDiffer columns = true) :
    (columns.map fun c => Text.lowerAscii c.name).Nodup := by
  induction columns with
  | nil => exact .nil
  | cons c rest ih =>
    simp only [TableDefinition.columnsDiffer, Bool.and_eq_true, Bool.not_eq_true',
      List.any_eq_false] at h
    rw [List.map_cons, List.nodup_cons]
    refine ⟨fun hmem => ?_, ih h.2⟩
    obtain ⟨d, hd, heq⟩ := List.mem_map.1 hmem
    exact h.1 d hd (Text.sameName_iff.2 heq.symm)

/-- No two columns of a defined table have one name. -/
theorem StoredTable.nodup_columns_of_ofDefinition? {d : TableDefinition} {t : StoredTable}
    (h : StoredTable.ofDefinition? d = some t) :
    (t.columns.map fun c => Text.lowerAscii c.name).Nodup := by
  obtain ⟨_, _, _, -, -, hdiffer, -, -⟩ := exists_of_ofDefinition? h
  have hnames := congrArg (List.map Text.lowerAscii) (names_of_ofDefinition? h)
  rw [List.map_map, List.map_map] at hnames
  exact hnames ▸ nodup_of_columnsDiffer hdiffer

namespace Schema

/-- A schema has become another one by a statement: every table was there, up to its rows, or is
the one that the statement defines, and no two relations have come to share a name. -/
structure Follows (s : Statement) (before after : Schema) : Prop where
  tables : ∀ t' ∈ after.tables, (∃ t ∈ before.tables, t'.emptied = t.emptied) ∨
    ∃ d, s = .createTable d ∧ StoredTable.ofDefinition? d = some t'
  nodup : before.relationKeys.Nodup → after.relationKeys.Nodup

variable {st : Statement} {s s' : Schema}

theorem KeepsTables.follows (h : KeepsTables s s') : Follows st s s' :=
  ⟨fun t' ht' => .inl (h.tables t' ht'), fun hs => h.keys ▸ hs⟩

theorem KeepsTables.follows_trans {s'' : Schema} (h : KeepsTables s s') (h' : Follows st s' s'') :
    Follows st s s'' := by
  refine ⟨fun t'' ht'' => ?_, fun hs => h'.nodup (h.keys ▸ hs)⟩
  rcases h'.tables t'' ht'' with ⟨t', ht', heq'⟩ | hd
  · obtain ⟨t, ht, heq⟩ := h.tables t' ht'
    exact .inl ⟨t, ht, heq'.trans heq⟩
  · exact .inr hd

/-- Nothing is added by taking objects away. -/
theorem follows_of_sublist (h : s'.Sublist s) : Follows st s s' := by
  refine ⟨fun t ht => .inl ⟨t, mem_tables.2 (h.subset (mem_tables.1 ht)), rfl⟩, fun hs => ?_⟩
  exact hs.sublist ((h.filterMap _).map _)

/-- An object that is no relation adds no table. -/
theorem Follows.append {o : DatabaseObject} (h : Follows st s s') (ho : o.relationName? = none) :
    Follows st s (s' ++ [o]) := by
  have hkeys : relationKeys [o] = [] := by simp [relationKeys, ho]
  refine ⟨fun t ht => h.tables t ?_, fun hs => ?_⟩
  · rw [mem_tables, List.mem_append] at ht
    rcases ht with ht | ht
    · exact mem_tables.2 ht
    · obtain rfl : .table t = o := by simpa using ht
      cases ho
  · rw [relationKeys_append, hkeys, List.append_nil]
    exact h.nodup hs

theorem nodup_append_relation {o : DatabaseObject} {name : String}
    (ho : o.relationName? = some name) (h : s.hasRelation name = false)
    (hs : s.relationKeys.Nodup) : (relationKeys (s ++ [o])).Nodup := by
  have hkeys : relationKeys [o] = [Text.lowerAscii name] := by simp [relationKeys, ho]
  rw [relationKeys_append, hkeys, List.nodup_append]
  refine ⟨hs, List.pairwise_singleton .., ?_⟩
  rintro _ hmem _ hname rfl
  rw [List.mem_singleton.1 hname, ← hasRelation_iff, h] at hmem
  cases hmem

open Database in
theorem follows_addTable {d : TableDefinition} {t : StoredTable}
    (h : StoredTable.ofDefinition? d = some t) (hfree : s.hasRelation d.name.name = false) :
    Follows (.createTable d) s (addTable s t) := by
  obtain ⟨-, hname⟩ := StoredTable.emptied_of_ofDefinition? h
  have hone : Follows (.createTable d) s (s ++ [.table t]) := by
    refine ⟨fun t' ht' => ?_, nodup_append_relation (congrArg some hname) hfree⟩
    rw [mem_tables, List.mem_append, ← mem_tables] at ht'
    rcases ht' with ht' | ht'
    · exact .inl ⟨t', ht', rfl⟩
    · obtain rfl : t' = t := by simpa using ht'
      exact .inr ⟨d, rfl, h⟩
  rw [addTable]
  split
  · have := hone.append (o := .counters) rfl
    rwa [List.append_assoc] at this
  · exact hone

theorem follows_addView {name : String} (h : s.hasRelation name = false) :
    Follows st s (s ++ [.view name]) := by
  refine ⟨fun t ht => .inl ⟨t, ?_, rfl⟩, nodup_append_relation rfl h⟩
  simpa [mem_tables] using ht

end Schema

/-! ## Definitions and removals -/

namespace Database

/-- A database has become another one by a statement. -/
def Follows (s : Statement) (db db' : Database) : Prop :=
  ∀ kind, Schema.Follows s (db.schema kind) (db'.schema kind)

variable {db db' : Database} {st : Statement}

theorem KeepsTables.follows (h : KeepsTables db db') : Follows st db db' :=
  fun kind => (h kind).follows

theorem follows_setSchema {kind : SchemaKind} {s : Schema}
    (h : Schema.Follows st (db.schema kind) s) : Follows st db (db.setSchema kind s) := by
  intro k
  cases kind <;> cases k <;> first | exact h | exact (Schema.KeepsTables.refl _).follows

theorem follows_of_sublist (h : ∀ kind, (db'.schema kind).Sublist (db.schema kind)) :
    Follows st db db' :=
  fun kind => Schema.follows_of_sublist (h kind)

theorem eq_some_of_required {α : Type} {o : Option α} {a : α} (h : required o = .ok a) :
    o = some a := by
  cases o with
  | none => cases h
  | some a' => cases h; rfl

theorem hasRelation_of_relationPlace {name : ObjectName} {isTemporary isTaken : Bool}
    {kind : SchemaKind} (h : db.relationPlace name isTemporary = .ok (kind, isTaken)) :
    (db.schema kind).hasRelation name.name = isTaken := by
  rw [relationPlace] at h
  obtain ⟨kind', -, h⟩ := exists_of_bind_eq_ok h
  obtain ⟨-, h⟩ := and_of_throw_eq_ok h
  cases h
  rfl

theorem follows_createTable {d : TableDefinition} (h : db.createTable d = .ok db') :
    Follows (.createTable d) db db' := by
  rw [createTable] at h
  obtain ⟨⟨kind, isTaken⟩, hplace, h⟩ := exists_of_bind_eq_ok h
  have hrelation := hasRelation_of_relationPlace hplace
  cases isTaken with
  | true =>
    dsimp only at h
    rw [if_pos rfl] at h
    split at h
    · cases h
      exact (KeepsTables.refl db).follows
    · cases h
  | false =>
    obtain ⟨t, ht, h⟩ := exists_of_bind_eq_ok h
    cases h
    exact follows_setSchema (Schema.follows_addTable (eq_some_of_required ht) hrelation)

theorem follows_createView {name : ObjectName} {isTemporary ifNotExists : Bool}
    (h : db.createView name isTemporary ifNotExists = .ok db') : Follows st db db' := by
  rw [createView] at h
  obtain ⟨⟨kind, isTaken⟩, hplace, h⟩ := exists_of_bind_eq_ok h
  have hrelation := hasRelation_of_relationPlace hplace
  cases isTaken with
  | true =>
    dsimp only at h
    rw [if_pos rfl] at h
    split at h
    · cases h
      exact (KeepsTables.refl db).follows
    · cases h
  | false =>
    cases h
    exact follows_setSchema (Schema.follows_addView hrelation)

theorem follows_createIndex {d : IndexDefinition} (h : db.createIndex d = .ok db') :
    Follows st db db' := by
  rw [createIndex] at h
  obtain ⟨⟨kind, t⟩, -, h⟩ := exists_of_bind_eq_ok h
  obtain ⟨-, h⟩ := and_of_throw_eq_ok h
  split at h
  · split at h
    · cases h
      exact (KeepsTables.refl db).follows
    · cases h
  · obtain ⟨terms, -, h⟩ := exists_of_bind_eq_ok h
    obtain ⟨-, h⟩ := and_of_throw_eq_ok h
    cases h
    exact follows_setSchema ((Schema.KeepsTables.refl _).follows.append rfl)

theorem follows_createTrigger {d : TriggerDefinition} (h : db.createTrigger d = .ok db') :
    Follows st db db' := by
  rw [createTrigger] at h
  obtain ⟨-, h⟩ := and_of_throw_eq_ok h
  obtain ⟨named, -, h⟩ := exists_of_bind_eq_ok h
  obtain ⟨home, -, h⟩ := exists_of_bind_eq_ok h
  dsimp only at h
  generalize (if d.name.schema.isNone && home = .temporary then SchemaKind.temporary else named) =
    kind at h
  obtain ⟨-, h⟩ := and_of_throw_eq_ok h
  obtain ⟨-, h⟩ := and_of_throw_eq_ok h
  split at h
  · split at h
    · cases h
      exact (KeepsTables.refl db).follows
    · cases h
  · obtain ⟨-, h⟩ := and_of_throw_eq_ok h
    cases h
    exact follows_setSchema ((Schema.KeepsTables.refl _).follows.append rfl)

/-! ## Removals -/

theorem sublist_removeRelation (relation : String) (s : Schema) :
    (removeRelation relation s).Sublist s :=
  List.filter_sublist.trans List.filter_sublist

theorem follows_dropRelation (db : Database) (kind : SchemaKind) (relation : String) :
    Follows st db (db.dropRelation kind relation) := by
  refine follows_of_sublist fun k => ?_
  cases kind with
  | main =>
    cases k with
    | main => exact sublist_removeRelation relation db.main
    | temporary =>
      simp only [dropRelation, schema]
      split
      · exact .refl _
      · exact List.filter_sublist
  | temporary =>
    cases k with
    | main => exact .refl _
    | temporary => exact sublist_removeRelation relation db.temporary

theorem follows_filter (db : Database) (kind : SchemaKind) (p : DatabaseObject → Bool) :
    Follows st db (db.setSchema kind ((db.schema kind).filter p)) :=
  follows_setSchema (Schema.follows_of_sublist List.filter_sublist)

theorem mem_tables_of_tableToDrop? {name : ObjectName} {ifExists : Bool} {kind : SchemaKind}
    {t : StoredTable} (h : db.tableToDrop? name ifExists = .ok (some (kind, t))) :
    t ∈ (db.schema kind).tables := by
  rw [tableToDrop?] at h
  obtain ⟨-, h⟩ := and_of_throw_eq_ok h
  obtain ⟨kind?, -, h⟩ := exists_of_bind_eq_ok h
  cases kind? with
  | none => cases h
  | some kind' =>
    obtain ⟨t', ht', h⟩ := exists_of_bind_eq_ok h
    cases h
    exact (Schema.mem_tables_of_table? (eq_some_of_required ht')).1

theorem follows_dropTable {name : ObjectName} {ifExists : Bool}
    (h : db.dropTable name ifExists = .ok db') : Follows st db db' := by
  rw [dropTable] at h
  obtain ⟨found, hfound, h⟩ := exists_of_bind_eq_ok h
  cases found with
  | none =>
    cases h
    exact (KeepsTables.refl _).follows
  | some found =>
    obtain ⟨kind, t⟩ := found
    dsimp only at h
    split at h
    · cases h
      exact follows_dropRelation db kind t.name
    · obtain ⟨emptied, hemptied, h⟩ := exists_of_bind_eq_ok h
      obtain ⟨-, h⟩ := and_of_throw_eq_ok h
      cases h
      have hkeeps := keepsTables_setSchema
        (Schema.keepsTables_deleteRows (mem_tables_of_tableToDrop? hfound) hemptied)
      exact fun k => (hkeeps k).follows_trans (follows_dropRelation _ kind t.name k)

theorem follows_dropView {name : ObjectName} {ifExists : Bool}
    (h : db.dropView name ifExists = .ok db') : Follows st db db' := by
  rw [dropView] at h
  obtain ⟨-, h⟩ := and_of_throw_eq_ok h
  obtain ⟨kind?, -, h⟩ := exists_of_bind_eq_ok h
  cases kind? with
  | none =>
    cases h
    exact (KeepsTables.refl _).follows
  | some kind =>
    dsimp only at h
    split at h
    · cases h
      exact follows_dropRelation db kind name.name
    · cases h

theorem follows_dropIndex {name : ObjectName} {ifExists : Bool}
    (h : db.dropIndex name ifExists = .ok db') : Follows st db db' := by
  rw [dropIndex] at h
  obtain ⟨kind?, -, h⟩ := exists_of_bind_eq_ok h
  cases kind? with
  | none => cases h; exact (KeepsTables.refl _).follows
  | some kind => cases h; exact follows_filter db kind _

theorem follows_dropTrigger {name : ObjectName} {ifExists : Bool}
    (h : db.dropTrigger name ifExists = .ok db') : Follows st db db' := by
  rw [dropTrigger] at h
  obtain ⟨kind?, -, h⟩ := exists_of_bind_eq_ok h
  cases kind? with
  | none => cases h; exact (KeepsTables.refl _).follows
  | some kind => cases h; exact follows_filter db kind _

/-! ## Statements -/

theorem follows_define (h : db.define st = .ok db') : Follows st db db' := by
  cases st with
  | createTable d => exact follows_createTable h
  | createIndex d => exact follows_createIndex h
  | createView name isTemporary ifNotExists => exact follows_createView h
  | createTrigger d => exact follows_createTrigger h
  | drop kind name ifExists =>
    cases kind with
    | table => exact follows_dropTable h
    | index => exact follows_dropIndex h
    | view => exact follows_dropView h
    | trigger => exact follows_dropTrigger h
  | _ => cases h; exact (KeepsTables.refl _).follows

theorem follows_defined (lastId : Int) :
    Follows st db (match db.define st with
      | .ok db' => db'.unchanged lastId (.ok [])
      | .error e => db.unchanged lastId (.error e)).database := by
  cases h : db.define st with
  | error e => exact (KeepsTables.refl db).follows
  | ok db' => exact follows_define h

/-- **A statement adds the table that it defines, and no other one.** -/
theorem run_follows (db : Database) (lastId : Int) (parameter : String → Value) (s : Statement) :
    Follows s db (db.run lastId parameter s).database := by
  have hsame : Follows s db db := (KeepsTables.refl db).follows
  cases s with
  | write verb name columns rows =>
    rw [run]
    split
    · exact keepsTables_runWrite.follows
    · exact hsame
  | delete name condition =>
    rw [run]
    split
    · exact keepsTables_runDelete.follows
    · exact hsame
  | query q =>
    rw [run]
    split <;> exact hsame
  | _ => exact follows_defined lastId

/-! ## Scripts -/

/-- The statement is read in the lexemes of a script: from `own` on, with `rest` behind it. -/
inductive IsReadIn (s : Statement) (own rest : List Lexeme) : List Lexeme → Prop
  | first : readStatement own = .ok (some (s, rest)) → IsReadIn s own rest own
  | later {lexemes behind : List Lexeme} {before : Statement} :
    readStatement lexemes = .ok (some (before, behind)) → IsReadIn s own rest behind →
      IsReadIn s own rest lexemes

theorem IsReadIn.readStatement {s : Statement} {own rest lexemes : List Lexeme}
    (h : IsReadIn s own rest lexemes) : readStatement own = .ok (some (s, rest)) := by
  induction h with
  | first hread => exact hread
  | later _ _ ih => exact ih

/-- A table comes from a definition that is read in the lexemes. -/
def IsDefinedIn (lexemes : List Lexeme) (t : StoredTable) : Prop :=
  ∃ d own rest, IsReadIn (.createTable d) own rest lexemes ∧
    StoredTable.ofDefinition? d = some t.emptied

theorem IsDefinedIn.nodup_columns {lexemes : List Lexeme} {t : StoredTable}
    (h : IsDefinedIn lexemes t) : (t.columns.map fun c => Text.lowerAscii c.name).Nodup := by
  obtain ⟨d, own, rest, -, hd⟩ := h
  have hnodup := StoredTable.nodup_columns_of_ofDefinition? hd
  exact hnodup

/-- What is known of the schemas of a database behind a script that began with another one. -/
structure IsHistory (lexemes : List Lexeme) (before after : Schema) : Prop where
  tables : ∀ t' ∈ after.tables, (∃ t ∈ before.tables, t'.emptied = t.emptied) ∨
    IsDefinedIn lexemes t'
  nodup : before.relationKeys.Nodup → after.relationKeys.Nodup

theorem IsHistory.refl (lexemes : List Lexeme) (s : Schema) : IsHistory lexemes s s :=
  ⟨fun t ht => .inl ⟨t, ht, rfl⟩, id⟩

theorem IsHistory.step {lexemes rest : List Lexeme} {s : Statement} {before middle after : Schema}
    (hread : readStatement lexemes = .ok (some (s, rest))) (hstep : Schema.Follows s before middle)
    (h : IsHistory rest middle after) : IsHistory lexemes before after := by
  refine ⟨fun t'' ht'' => ?_, fun hb => h.nodup (hstep.nodup hb)⟩
  rcases h.tables t'' ht'' with ⟨t', ht', heq'⟩ | ⟨d, own, behind, hin, hd⟩
  · rcases hstep.tables t' ht' with ⟨t, ht, heq⟩ | ⟨d, rfl, hd⟩
    · exact .inl ⟨t, ht, heq'.trans heq⟩
    · refine .inr ⟨d, lexemes, rest, .first hread, ?_⟩
      rw [hd, heq', (StoredTable.emptied_of_ofDefinition? hd).1]
  · exact .inr ⟨d, own, behind, .later hread hin, hd⟩

theorem runStatements_history (kind : SchemaKind) (fuel : Nat) (lexemes : List Lexeme)
    (db : Database) (lastId : Int) : IsHistory lexemes (db.schema kind)
      ((runStatements lexemes db lastId fuel).database.schema kind) := by
  induction fuel generalizing lexemes db lastId with
  | zero => exact .refl ..
  | succ fuel ih =>
    rw [runStatements]
    split
    · exact .refl ..
    · exact .refl ..
    · rename_i s rest hread
      have hstep := run_follows db lastId unbound s kind
      dsimp only
      split
      · exact .step hread hstep (.refl ..)
      · exact .step hread hstep (ih ..)

/-- **Tables come from definitions.** Behind a script that began with nothing, every table comes
from a definition in it, and no two relations of a schema share a name. -/
theorem runScript_history (script : String) (lastId : Int) (kind : SchemaKind) :
    (∀ t ∈ ((empty.runScript lastId script).database.schema kind).tables,
      IsDefinedIn (lex script) t) ∧
      ((empty.runScript lastId script).database.schema kind).relationKeys.Nodup := by
  have h := runStatements_history kind ((lex script).length + 1) (lex script) empty lastId
  have hempty : empty.schema kind = [] := by cases kind <;> rfl
  rw [hempty] at h
  refine ⟨fun t ht => ?_, h.nodup (by simp [Schema.relationKeys])⟩
  rcases h.tables t ht with ⟨t₀, ht₀, -⟩ | hd
  · simp [Schema.tables] at ht₀
  · exact hd

end Database

end Tablewright
