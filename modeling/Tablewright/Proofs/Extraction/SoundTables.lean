import Tablewright.Proofs.Extraction.FixedScripts
import Tablewright.Proofs.Schema.FirstProblem
import Tablewright.Proofs.Sql.Increments

/-!
# Extracted tables are sound

An engine keeps its catalog in order if no statement that succeeds leaves two tables of one name, a
table without columns, or two columns of one name in a table (`Engine.KeepsOrder`). What is read off
such a catalog makes a sound schema, since a column is only reported to be autoincremented if it is an
INTEGER primary key (`isSoundSchema_of_reading`). So the test of the extracted tables never fails,
whatever else the engine does (`extractTables_live_sound`). The built-in engine keeps its catalog in
order (`keepsOrder_builtIn`).
-/

namespace Tablewright

open Sql

/-! ## Engines that keep order -/

namespace Engine

variable (e : Engine)

/-- A store that statements of scripts lead to. -/
inductive Reachable : e.Store → Prop
  | fresh {store : e.Store} : e.fresh = .ok store → Reachable store
  | run {store after : e.Store} {script : String} {s : e.Statement} : Reachable store →
    s ∈ (e.statements script).1 → e.run store s = .ok after → Reachable after

/-- No two tables of a catalog have one name in whatever case, nor two columns of a table, and every
table has columns. -/
structure IsOrderly (store : e.Store) : Prop where
  tables : ∀ entries, e.entries store = .ok entries →
    ((Catalog.ownEntries entries).map fun entry => Text.lowerAscii entry.name).Nodup
  nonempty : ∀ entries, e.entries store = .ok entries → ∀ entry ∈ Catalog.ownEntries entries,
    ∀ columns, e.columns store entry.name = .ok columns → columns ≠ []
  columns : ∀ entries, e.entries store = .ok entries → ∀ entry ∈ Catalog.ownEntries entries,
    ∀ columns, e.columns store entry.name = .ok columns →
      (columns.map fun c => Text.lowerAscii c.name).Nodup

/-- A new catalog is in order, and a statement that succeeds leaves it in order. -/
structure KeepsOrder : Prop where
  fresh : ∀ {store : e.Store}, e.fresh = .ok store → e.IsOrderly store
  run : ∀ {store after : e.Store} {script : String} {s : e.Statement}, e.Reachable store →
    e.IsOrderly store → s ∈ (e.statements script).1 → e.run store s = .ok after → e.IsOrderly after

variable {e}

/-- **Every run leaves the catalog in order.** -/
theorem KeepsOrder.isOrderly (he : e.KeepsOrder) {store : e.Store} (h : e.Reachable store) :
    e.IsOrderly store := by
  induction h with
  | fresh hfresh => exact he.fresh hfresh
  | run hreachable hs hrun ih => exact he.run hreachable ih hs hrun

/-- Statements that are run one after the other lead on. -/
theorem Reachable.runRead {script : String} {ss : List e.Statement} {failure? : Option Failure}
    {store after : e.Store} (h : e.Reachable store) (hss : ∀ s ∈ ss, s ∈ (e.statements script).1)
    (hrun : e.runRead store (ss, failure?) = .ok after) : e.Reachable after := by
  induction ss generalizing store with
  | nil =>
    cases failure? with
    | none =>
      cases hrun
      exact h
    | some failure => cases hrun
  | cons s ss ih =>
    obtain ⟨middle, hfirst, hrest⟩ := Catalog.runRead_cons_eq_ok_iff.1 hrun
    exact ih (.run h (hss s List.mem_cons_self) hfirst)
      (fun t ht => hss t (List.mem_cons_of_mem s ht)) hrest

/-- What a new store has and every statement keeps, every reachable store has. -/
theorem Reachable.induct {p : e.Store → Prop} (hfresh : ∀ store, e.fresh = .ok store → p store)
    (hrun : ∀ store after script s, p store → s ∈ (e.statements script).1 →
      e.run store s = .ok after → p after) {store : e.Store} (h : e.Reachable store) : p store := by
  induction h with
  | fresh h => exact hfresh _ h
  | run _ hs h ih => exact hrun _ _ _ _ ih hs h

theorem reachable_of_ofScript {script : String} {store : e.Store}
    (h : Catalog.ofScript e script = .ok store) : e.Reachable store := by
  obtain ⟨fresh, hfresh, h⟩ := exists_of_bind_eq_ok h
  exact (Reachable.fresh (mapError_eq_ok_iff.1 hfresh)).runRead (fun _ hs => hs)
    (mapError_eq_ok_iff.1 h)

end Engine

namespace Catalog

/-! ## What is read -/

variable {e : Engine} {store : e.Store} {entry : CatalogEntry} {columns : List CatalogColumn}
  {table : Table}

/-- A column that was read is autoincremented only as an INTEGER primary key, and accepts no NULL in
a primary key. -/
theorem flags_of_readTable (h : readTable entry columns = .ok table) :
    ∀ c ∈ table.columns, (c.isAutoIncrement = true → c.isPrimaryKey = true ∧ c.affinity = .integer) ∧
      (c.isPrimaryKey = true → c.isNullable = false) := by
  intro column hcolumn
  obtain ⟨i, hi⟩ := List.mem_iff_getElem?.1 hcolumn
  obtain ⟨c, -, hread⟩ := (readColumn_of_readTable h).2 i column hi
  obtain ⟨affinity, -, rfl⟩ := readColumn_eq_ok_iff.1 hread
  constructor
  · intro hincrement
    simp only [Column.declare, Bool.and_eq_true, decide_eq_true_eq] at hincrement
    exact hincrement.1
  · intro hkey
    simp only [Column.declare] at hkey ⊢
    rw [hkey, Bool.or_true, Bool.not_true]

/-- A table is sound if its columns in the catalog are there and differ. -/
theorem isSound_of_readTable (h : readTable entry columns = .ok table) (hnonempty : columns ≠ [])
    (hcolumns : (columns.map fun c => Text.lowerAscii c.name).Nodup) : table.IsSound := by
  have hnames := names_of_readTable h
  refine ⟨fun hempty => hnonempty ?_, ?_, fun c hc => (flags_of_readTable h c hc).1⟩
  · rw [hempty, List.map_nil, eq_comm, List.map_eq_nil_iff] at hnames
    exact hnames
  · rw [hnames]
    refine .of_map Text.lowerAscii ?_
    rwa [List.map_map]

theorem names_of_fetching {entries : List CatalogEntry} {tables : List Table}
    (h : List.Forall₂ (fun entry table => fetchTable e store entry = .ok table) entries tables) :
    tables.map (·.name) = entries.map (·.name) := by
  induction h with
  | nil => rfl
  | cons hfetch _ ih =>
    obtain ⟨columns, -, hread⟩ := fetchTable_eq_ok_iff.1 hfetch
    rw [List.map_cons, List.map_cons, ih, (readTable_eq_ok_iff.1 hread).1]

/-- **What is read off a catalog in order is a sound schema.** -/
theorem isSoundSchema_of_reading (hstore : e.IsOrderly store) {tables : List Table}
    (h : catalogTables e store = .ok tables) : IsSoundSchema tables := by
  obtain ⟨entries, hentries, h⟩ := catalogTables_eq_ok_iff.1 h
  rw [readTables_eq_ok_iff] at h
  constructor
  · rw [names_of_fetching h]
    refine .of_map Text.lowerAscii ?_
    rw [List.map_map]
    exact hstore.tables entries hentries
  · intro table hmem
    obtain ⟨entry, hentry, hfetch⟩ := exists_of_forall₂ h hmem
    obtain ⟨columns, hcolumns, hread⟩ := fetchTable_eq_ok_iff.1 hfetch
    exact isSound_of_readTable hread (hstore.nonempty entries hentries entry hentry columns hcolumns)
      (hstore.columns entries hentries entry hentry columns hcolumns)

/-! ## Failures -/

/-- A catalog is not read only if a query fails or a type is unknown. -/
theorem not_invalid_of_catalogTables {p : SchemaProblem} :
    catalogTables e store ≠ .error (.invalid p) := by
  have hquery : ∀ {α : Type} {x : Except Failure α},
      x.mapError ExtractionError.database ≠ .error (.invalid p) := by
    intro α x h
    cases x <;> cases h
  have hfetch : ∀ entry, fetchTable e store entry ≠ .error (.invalid p) := by
    intro entry h
    rw [fetchTable, bind_eq_error_iff] at h
    rcases h with h | ⟨columns, -, h⟩
    · exact hquery h
    · obtain ⟨_, _, _, heq⟩ := exists_of_readTable_eq_error h
      cases heq
  have hread : ∀ entries, readTables e store entries ≠ .error (.invalid p) := by
    intro entries
    induction entries with
    | nil => intro h; cases h
    | cons entry rest ih =>
      rw [readTables]
      split
      · exact ih
      · intro h
        rcases bind_eq_error_iff.1 h with h | ⟨_, -, h⟩
        · exact hfetch entry h
        · rcases bind_eq_error_iff.1 h with h | ⟨_, -, h⟩
          · exact ih h
          · cases h
  intro h
  rw [catalogTables, listedEntries, bind_eq_error_iff] at h
  rcases h with h | ⟨entries, -, h⟩
  · exact hquery h
  · exact hread entries h

/-- **The tables that are read off the catalog of a script always pass the test**, whatever engine
runs the script, if it keeps its catalog in order. So extraction never finds an invalid schema. Its
primary keys accept no NULL. -/
theorem extractTables_live_sound {e : Engine} (he : e.KeepsOrder) (script : String) :
    (∀ p, extractTablesBy e script .live ≠ .error (.invalid p)) ∧
      (∀ store tables, ofScript e script = .ok store → catalogTables e store = .ok tables →
        firstProblem? tables = none ∧ extractTablesBy e script .live = .ok tables) ∧
      ∀ tables, extractTablesBy e script .live = .ok tables →
        ∀ t ∈ tables, ∀ c ∈ t.columns, c.isPrimaryKey = true → c.isNullable = false := by
  have hpasses : ∀ store tables, ofScript e script = .ok store →
      catalogTables e store = .ok tables → firstProblem? tables = none := fun store tables hstore h =>
    firstProblem?_eq_none_iff.2
      (isSoundSchema_of_reading (he.isOrderly (Engine.reachable_of_ofScript hstore)) h)
  refine ⟨fun p h => ?_, fun store tables hstore htables => ?_, fun tables h t ht c hc => ?_⟩
  · rw [extractTablesBy, extract, bind_eq_error_iff] at h
    rcases h with h | ⟨store, hstore, h⟩
    · rw [ofScript, bind_eq_error_iff] at h
      rcases h with h | ⟨fresh, -, h⟩
      · cases hfresh : e.fresh <;> rw [hfresh] at h <;> cases h
      · cases hrun : e.execute fresh script <;> rw [hrun] at h <;> cases h
    · rcases bind_eq_error_iff.1 h with h | ⟨tables, htables, h⟩
      · exact not_invalid_of_catalogTables h
      · rw [validated, hpasses store tables hstore htables] at h
        cases h
  · have hproblem := hpasses store tables hstore htables
    refine ⟨hproblem, ?_⟩
    rw [extractTablesBy, extract, hstore, ok_bind, htables, ok_bind]
    exact validated_eq_ok_iff.2 ⟨rfl, hproblem⟩
  · obtain ⟨_, _, -, entry, -, columns, -, hread⟩ := exists_of_extract h ht
    exact (flags_of_readTable hread c hc).2

end Catalog

/-! ## Definitions have columns -/

namespace Sql.Grammar

theorem ensures_columnDefinitions (fuel : Nat) : Ensures (columnDefinitions fuel) (·.1 ≠ []) := by
  cases fuel with
  | zero => nofun
  | succ fuel =>
    refine .bind fun ⟨column, label⟩ => .bind fun isComma => ?_
    cases isComma with
    | false => exact ensures_pure (List.cons_ne_nil _ _)
    | true =>
      refine .bind fun isConstraint => ?_
      cases isConstraint with
      | true => exact ensures_pure (List.cons_ne_nil _ _)
      | false => exact .bind fun _ => ensures_pure (List.cons_ne_nil _ _)

theorem columns_of_createTable {isTemporary : Bool} {ls rest : List Lexeme} {d : TableDefinition}
    (h : (createTable isTemporary).run ls = some (.createTable d, rest)) : d.columns ≠ [] := by
  obtain ⟨_, _, -, h⟩ := run_bind_eq_some.1 h
  obtain ⟨_, _, -, h⟩ := run_bind_eq_some.1 h
  obtain ⟨_, _, -, h⟩ := run_bind_eq_some.1 h
  obtain ⟨_, _, -, h⟩ := run_bind_eq_some.1 h
  obtain ⟨fuel, _, -, h⟩ := run_bind_eq_some.1 h
  obtain ⟨⟨columns, label, more⟩, _, hcolumns, h⟩ := run_bind_eq_some.1 h
  dsimp -zeta only at h
  extract_lets behind at h
  have hsame : ∀ constraints, Ensures (behind constraints)
      fun s => ∀ d, s = .createTable d → d.columns = columns := by
    intro constraints
    refine .bind fun _ => .bind fun _ => .bind fun _ => .bind fun _ => ensures_pure ?_
    rintro _ ⟨⟩
    rfl
  have hd : d.columns = columns := by
    cases more with
    | true =>
      obtain ⟨constraints, _, -, h⟩ := run_bind_eq_some.1 h
      exact hsame constraints _ _ _ h d rfl
    | false =>
      obtain ⟨constraints, _, -, h⟩ := run_bind_eq_some.1 h
      exact hsame constraints _ _ _ h d rfl
  rw [hd]
  exact ensures_columnDefinitions fuel _ _ _ hcolumns

/-- A definition that was read has columns. -/
theorem columns_of_statement {ls rest : List Lexeme} {d : TableDefinition}
    (h : statement.run ls = some (.createTable d, rest)) : d.columns ≠ [] := by
  obtain ⟨s, _, hcommand, h⟩ := run_bind_eq_some.1 h
  obtain ⟨_, _, -, h⟩ := run_bind_eq_some.1 h
  cases h
  obtain ⟨_, _, _, -, -, hrun⟩ := leadsToTable_of_command hcommand
  exact columns_of_createTable hrun

end Sql.Grammar

/-! ## The built-in engine -/

/-- No two relations of a schema share a name in any case, nor two columns of a table, and every
table has columns. -/
structure Database.IsOrderly (db : Database) : Prop where
  relations : ∀ kind, (db.schema kind).relationKeys.Nodup
  nonempty : ∀ kind, ∀ t ∈ (db.schema kind).tables, t.columns ≠ []
  columns : ∀ kind, ∀ t ∈ (db.schema kind).tables,
    (t.columns.map fun c => Text.lowerAscii c.name).Nodup

/-- **A statement that is read leaves a database in order.** -/
theorem Database.IsOrderly.run {db : Database} (h : db.IsOrderly) {own rest : List Lexeme}
    {s : Statement} (hread : readStatement own = .ok (some (s, rest))) (lastId : Int)
    (parameter : String → Value) : (db.run lastId parameter s).database.IsOrderly := by
  have hfollows := run_follows db lastId parameter s
  have hemptied : ∀ {t t' : StoredTable}, t'.emptied = t.emptied → t'.columns = t.columns := by
    intro t t' heq
    have hcolumns := congrArg StoredTable.columns heq
    exact hcolumns
  refine ⟨fun kind => (hfollows kind).nodup (h.relations kind), fun kind t' ht' => ?_,
    fun kind t' ht' => ?_⟩
  · rcases (hfollows kind).tables t' ht' with ⟨t, ht, heq⟩ | ⟨d, rfl, hd⟩
    · rw [hemptied heq]
      exact h.nonempty kind t ht
    · obtain ⟨_, _, -, -, hrun⟩ := exists_of_readStatement hread
      have hnames := StoredTable.names_of_ofDefinition? hd
      intro hempty
      rw [hempty, List.map_nil, eq_comm, List.map_eq_nil_iff] at hnames
      exact Grammar.columns_of_statement hrun hnames
  · rcases (hfollows kind).tables t' ht' with ⟨t, ht, heq⟩ | ⟨d, -, hd⟩
    · rw [hemptied heq]
      exact h.columns kind t ht
    · exact StoredTable.nodup_columns_of_ofDefinition? hd

theorem Database.isOrderly_empty : empty.IsOrderly := by
  have hempty : ∀ kind, empty.schema kind = [] := fun kind => by cases kind <;> rfl
  constructor <;> intro kind <;> rw [hempty]
  · exact List.nodup_nil
  all_goals nofun

namespace Catalog

theorem exists_of_mem_readStatements {lexemes : List Lexeme} {fuel : Nat} {s : Statement}
    (h : s ∈ (readStatements lexemes fuel).1) :
    ∃ own rest, readStatement own = .ok (some (s, rest)) := by
  induction fuel generalizing lexemes with
  | zero => cases h
  | succ fuel ih =>
    rw [readStatements] at h
    split at h
    · cases h
    · cases h
    · rename_i first rest hread
      rcases List.mem_cons.1 h with rfl | h
      · exact ⟨lexemes, rest, hread⟩
      · exact ih h

/-- The database of the built-in engine is always in order. -/
theorem isOrderly_of_reachable {store : Database × Int} (h : Engine.builtIn.Reachable store) :
    store.1.IsOrderly := by
  refine Engine.Reachable.induct (p := fun store : Database × Int => store.1.IsOrderly) ?_ ?_ h
  · rintro _ ⟨⟩
    exact Database.isOrderly_empty
  · rintro ⟨db, lastId⟩ after script s ih hs hrun
    obtain ⟨-, -, rfl⟩ := run_builtIn_eq_ok_iff.1 hrun
    obtain ⟨own, rest, hread⟩ : ∃ own rest, readStatement own = .ok (some (s, rest)) := by
      change s ∈ (scriptStatements script).1 at hs
      rw [scriptStatements] at hs
      split at hs
      · exact exists_of_mem_readStatements hs
      · cases hs
    exact ih.run hread _ _

/-- The catalog of a database in order is in order. -/
theorem isOrderly_builtIn {db : Database} {lastId : Int} (h : db.IsOrderly) :
    Engine.builtIn.IsOrderly (db, lastId) := by
  have hcolumns : ∀ entry ∈ ownEntries (db.main.filterMap (·.listed?)), ∀ columns,
      db.catalogColumns entry.name = .ok columns →
        ∃ kind, ∃ t ∈ (db.schema kind).tables, columns = t.catalogColumns := by
    intro entry hentry columns hcolumns
    rw [ownEntries_listed, List.mem_map] at hentry
    obtain ⟨t, ht, rfl⟩ := hentry
    have hthere := Schema.hasRelation_of_mem (List.mem_filter.1 ht).1
    obtain ⟨-, kind, front, hfind, rfl⟩ := exists_of_catalogColumns hcolumns hthere
    obtain ⟨kind', -, hfind⟩ := Option.bind_eq_some_iff.1 hfind
    obtain ⟨front', hfront, heq⟩ := Option.bind_eq_some_iff.1 hfind
    cases heq
    exact ⟨kind, front, (Schema.mem_tables_of_table? hfront).1, rfl⟩
  have hnames : ∀ t : StoredTable, (t.catalogColumns.map fun c => Text.lowerAscii c.name) =
      t.columns.map fun c => Text.lowerAscii c.name := by
    intro t
    simpa [Function.comp_def] using congrArg (List.map Text.lowerAscii) (names_catalogColumns t)
  constructor
  · rintro _ ⟨⟩
    rw [ownEntries_listed, List.map_map]
    have hkeys := (h.relations .main).sublist (Schema.sublist_relationKeys db.main)
    exact hkeys.sublist (List.filter_sublist.map _)
  · rintro _ ⟨⟩ entry hentry columns hread hempty
    obtain ⟨kind, t, ht, rfl⟩ := hcolumns entry hentry columns hread
    refine h.nonempty kind t ht (List.eq_nil_of_length_eq_zero ?_)
    simpa [StoredTable.catalogColumns] using congrArg List.length hempty
  · rintro _ ⟨⟩ entry hentry columns hread
    obtain ⟨kind, t, ht, rfl⟩ := hcolumns entry hentry columns hread
    rw [hnames]
    exact h.columns kind t ht

/-- **The built-in engine keeps its catalog in order.** -/
theorem keepsOrder_builtIn : Engine.builtIn.KeepsOrder where
  fresh hfresh := isOrderly_builtIn (isOrderly_of_reachable (.fresh hfresh))
  run hreachable _ hs hrun := isOrderly_builtIn (isOrderly_of_reachable (.run hreachable hs hrun))

/-- A table that is autoincremented, and one that a temporary table of its name hides, so that its
untyped column is not read. -/
def hidingScript : String :=
  "CREATE TABLE a(i INTEGER PRIMARY KEY AUTOINCREMENT);" ++
  "CREATE TABLE c(w);CREATE TEMP TABLE C(y REAL PRIMARY KEY)"

/-- The tables of this script. -/
def hidingTables : List Table :=
  [⟨"a", [⟨"i", .integer, true, true, false⟩]⟩, ⟨"c", [⟨"y", .real, true, false, false⟩]⟩]

theorem extractTables_live_sound_of_hidingScript :
    Engine.builtIn.KeepsOrder ∧
      extractTablesBy .builtIn hidingScript .live = .ok hidingTables ∧
      (∀ p, extractTablesBy .builtIn hidingScript .live ≠ .error (.invalid p)) ∧
      ∀ t ∈ hidingTables, ∀ c ∈ t.columns, c.isPrimaryKey = true → c.isNullable = false := by
  have hextract : extractTablesBy .builtIn hidingScript .live = .ok hidingTables :=
    extract_of_toList (Text.toList_pieces _ _) (by decide +kernel) (by decide)
  obtain ⟨hinvalid, -, hkeys⟩ := extractTables_live_sound keepsOrder_builtIn hidingScript
  exact ⟨keepsOrder_builtIn, hextract, hinvalid, hkeys _ hextract⟩

end Catalog

end Tablewright
