import Tablewright.Proofs.Database.History
import Tablewright.Proofs.Extraction.Catalog

/-!
# The built-in engine

The built-in engine runs a script that keeps to its limits as `Database.runScript` does
(`execute_builtIn_eq_ok_iff`). Its catalog lists the tables of the main schema, and tells of each the
columns of the table that its name means, which a temporary one may be. So its extraction is a reading
of the database behind the script (`extractTables_eq_ok_iff`).
-/

namespace Tablewright

open Sql

/-! ## Lengths -/

theorem Text.utf8ByteSize_le (s : String) : s.utf8ByteSize ≤ 4 * s.toList.length := by
  have hchars : ∀ cs : List Char, (String.ofList cs).utf8ByteSize ≤ 4 * cs.length := by
    intro cs
    induction cs with
    | nil => exact Nat.le_refl 0
    | cons c cs ih =>
      have hcons : String.ofList (c :: cs) = String.singleton c ++ String.ofList cs := by
        rw [← String.toList_inj]
        simp
      have hc := Char.utf8Size_le_four c
      rw [hcons, String.utf8ByteSize_append, String.utf8ByteSize_singleton, List.length_cons]
      omega
  simpa using hchars s.toList

/-! ## Names -/

theorem Schema.hasRelation_of_table? {s : Schema} {name : String} {t : StoredTable}
    (h : s.table? name = some t) : s.hasRelation name = true := by
  obtain ⟨ht, hsame⟩ := mem_tables_of_table? h
  rw [hasRelation, List.any_eq_true]
  exact ⟨t.name, List.mem_filterMap.2 ⟨_, mem_tables.1 ht, rfl⟩, hsame⟩

theorem Database.findTable?_main {db : Database} {name : String} {t : StoredTable}
    (hfree : db.temporary.hasRelation name = false) (h : db.main.table? name = some t) :
    db.findTable? ⟨none, name⟩ = some (.main, t) := by
  have hrelation := Schema.hasRelation_of_table? h
  simp [findTable?, locate?, searchOrder, schema, hfree, hrelation, h]

theorem Outcome.failure?_of_error {o : Outcome} {e : Failure} (h : o.result = .error e) :
    o.failure? = some e := by
  rw [failure?, h]

theorem Outcome.failure?_of_ok {o : Outcome} {rows : List (List Value)} (h : o.result = .ok rows) :
    o.failure? = none := by
  rw [failure?, h]

namespace Catalog

/-! ## Runs -/

/-- Statements run one after the other. -/
theorem runRead_cons_eq_ok_iff {e : Engine} {s : e.Statement} {ss : List e.Statement}
    {failure? : Option Failure} {store after : e.Store} :
    e.runRead store (s :: ss, failure?) = .ok after ↔
      ∃ middle, e.run store s = .ok middle ∧ e.runRead middle (ss, failure?) = .ok after := by
  simp only [Engine.runRead, List.foldlM_cons, bind_assoc]
  exact ⟨exists_of_bind_eq_ok, fun ⟨middle, hrun, hrest⟩ => by rw [hrun, ok_bind, hrest]⟩

variable {db : Database} {lastId : Int}

theorem run_builtIn_eq_ok_iff {s : Statement} {store : Database × Int} :
    Engine.builtIn.run (db, lastId) s = .ok store ↔ s.isWithinLimits = true ∧
      (db.run lastId Database.unbound s).failure? = none ∧
      ((db.run lastId Database.unbound s).database, (db.run lastId Database.unbound s).lastId) =
        store := by
  have hrun : Engine.builtIn.run (db, lastId) s = if s.isWithinLimits then
      (db.run lastId Database.unbound s).result.map fun _ =>
        ((db.run lastId Database.unbound s).database, (db.run lastId Database.unbound s).lastId)
      else .error .invalid := rfl
  rw [hrun, Outcome.failure?]
  generalize db.run lastId Database.unbound s = outcome
  obtain ⟨after, afterId, result⟩ := outcome
  cases s.isWithinLimits with
  | false => simp
  | true =>
    cases result with
    | error e => simp [Except.map]
    | ok rows => exact ⟨fun h => ⟨rfl, rfl, Except.ok.inj h⟩, fun h => congrArg _ h.2.2⟩

/-- Statements that keep to the limits are run as those of a script are. -/
theorem runRead_builtIn_eq_ok_iff {lexemes : List Lexeme} {fuel : Nat} {store : Database × Int} :
    Engine.builtIn.runRead (db, lastId) (readStatements lexemes fuel) = .ok store ↔
      (∀ s ∈ (readStatements lexemes fuel).1, s.isWithinLimits = true) ∧
        Database.runStatements lexemes db lastId fuel = ⟨store.1, store.2, none⟩ := by
  obtain ⟨after, afterId⟩ := store
  have hend : ∀ db lastId, Engine.builtIn.runRead (db, lastId) ([], none) = .ok (after, afterId) ↔
      (∀ s ∈ ([] : List Statement), s.isWithinLimits = true) ∧
        (⟨db, lastId, none⟩ : ScriptOutcome) = ⟨after, afterId, none⟩ := by
    intro db lastId
    change Except.ok (db, lastId) = .ok (after, afterId) ↔ _
    simp
  induction fuel generalizing lexemes db lastId with
  | zero => exact hend db lastId
  | succ fuel ih =>
    rw [readStatements, Database.runStatements]
    cases hread : readStatement lexemes with
    | error failure =>
      change Except.error failure = .ok (after, afterId) ↔ _
      simp
    | ok next =>
      cases next with
      | none => exact hend db lastId
      | some next =>
        obtain ⟨s, rest⟩ := next
        refine (runRead_cons_eq_ok_iff (e := .builtIn)).trans ?_
        rw [List.forall_mem_cons]
        constructor
        · rintro ⟨middle, hrun, hrest⟩
          obtain ⟨hlimits, hnone, rfl⟩ := run_builtIn_eq_ok_iff.1 hrun
          obtain ⟨hlater, hrest⟩ := ih.1 hrest
          refine ⟨⟨hlimits, hlater⟩, ?_⟩
          cases hresult : (db.run lastId Database.unbound s).result with
          | error e =>
            rw [Outcome.failure?_of_error hresult] at hnone
            cases hnone
          | ok rows => simpa [hresult] using hrest
        · rintro ⟨⟨hlimits, hlater⟩, hrest⟩
          cases hresult : (db.run lastId Database.unbound s).result with
          | error e => simp [hresult] at hrest
          | ok rows =>
            simp only [hresult] at hrest
            exact ⟨_, run_builtIn_eq_ok_iff.2 ⟨hlimits, Outcome.failure?_of_ok hresult, rfl⟩,
              ih.2 ⟨hlater, hrest⟩⟩

/-- The limits of the built-in engine on a script. -/
structure KeepsLimits (script : String) : Prop where
  length : script.utf8ByteSize ≤ longestText
  statements : ∀ s ∈ (readStatements (lex script) ((lex script).length + 1)).1,
    s.isWithinLimits = true

/-- **The built-in engine runs a script** that keeps to its limits, and no other one. -/
theorem execute_builtIn_eq_ok_iff {script : String} {store : Database × Int} :
    Engine.builtIn.execute (db, lastId) script = .ok store ↔ KeepsLimits script ∧
      db.runScript lastId script = ⟨store.1, store.2, none⟩ := by
  have hread : Engine.builtIn.execute (db, lastId) script =
      Engine.builtIn.runRead (db, lastId) (scriptStatements script) := rfl
  rw [hread, scriptStatements]
  split
  · rename_i hlength
    refine runRead_builtIn_eq_ok_iff.trans ?_
    exact ⟨fun ⟨hlimits, hrun⟩ => ⟨⟨hlength, hlimits⟩, hrun⟩, fun ⟨h, hrun⟩ => ⟨h.statements, hrun⟩⟩
  · rename_i hlength
    change Except.error Failure.tooBig = .ok store ↔ _
    exact ⟨nofun, fun h => absurd h.1.length hlength⟩

/-! ## The catalog -/

/-- The catalog tells of the columns of a table under their names. -/
theorem names_catalogColumns (t : StoredTable) :
    t.catalogColumns.map (·.name) = t.columns.map (·.name) := by
  refine List.ext_getElem (by simp [StoredTable.catalogColumns]) fun i _ _ => ?_
  simp [StoredTable.catalogColumns]

/-- The columns of the table that a name means. -/
theorem catalogColumns_of_findTable? {name : String} {kind : SchemaKind} {t : StoredTable}
    (hquery : db.hasColumnQuery = true) (h : db.findTable? ⟨none, name⟩ = some (kind, t)) :
    db.catalogColumns name = .ok t.catalogColumns := by
  obtain ⟨kind', hkind, h⟩ := Option.bind_eq_some_iff.1 h
  obtain ⟨t', ht, h⟩ := Option.bind_eq_some_iff.1 h
  cases h
  rw [Database.catalogColumns, if_pos hquery, hkind]
  simp only [ht]

/-- Columns are told of a relation only if its name means a table. -/
theorem exists_of_catalogColumns {name : String} {columns : List CatalogColumn}
    (h : db.catalogColumns name = .ok columns) (hthere : db.main.hasRelation name = true) :
    db.hasColumnQuery = true ∧ ∃ kind t, db.findTable? ⟨none, name⟩ = some (kind, t) ∧
      columns = t.catalogColumns := by
  rw [Database.catalogColumns] at h
  split at h
  · rename_i hquery
    refine ⟨hquery, ?_⟩
    split at h
    · rename_i hnone
      have := List.find?_eq_none.1 hnone .main (by simp [Database.searchOrder])
      exact absurd hthere this
    · rename_i kind hkind
      split at h
      · rename_i t ht
        cases h
        refine ⟨kind, t, ?_, rfl⟩
        simp [Database.findTable?, hkind, ht]
      · cases h
  · cases h

/-- The tables of a schema that are not the engine's own. -/
def ownTables (s : Schema) : List StoredTable :=
  s.tables.filter fun t => !isInternalName t.name

/-- The entries are those of the tables. -/
theorem ownEntries_listed (s : Schema) :
    ownEntries (s.filterMap (·.listed?)) = (ownTables s).map (·.catalogEntry) := by
  induction s with
  | nil => rfl
  | cons o rest ih =>
    cases o with
    | table t =>
      have hentries : (DatabaseObject.table t :: rest).filterMap (·.listed?) =
          t.catalogEntry :: rest.filterMap (·.listed?) := rfl
      have htables : Schema.tables (.table t :: rest) = t :: Schema.tables rest := rfl
      rw [hentries, ownTables, htables, ownEntries, List.filter_cons, List.filter_cons]
      have hname : t.catalogEntry.name = t.name := rfl
      rw [hname]
      split
      · rw [List.map_cons]
        exact congrArg _ ih
      · exact ih
    | counters =>
      have hentries : (DatabaseObject.counters :: rest).filterMap (·.listed?) =
          ⟨"sqlite_sequence", some "CREATE TABLE sqlite_sequence(name,seq)"⟩ ::
            rest.filterMap (·.listed?) := rfl
      rw [hentries, ownEntries, List.filter_cons, if_neg (by decide)]
      exact ih
    | _ => exact ih

/-- A table is read off its entry and the columns that are told of its name. -/
def IsReadOff (db : Database) (t : StoredTable) (table : Table) : Prop :=
  ∃ columns, db.catalogColumns t.name = .ok columns ∧ readTable t.catalogEntry columns = .ok table

variable {script : String} {tables : List Table}

/-- What it takes that the built-in engine extracts tables. -/
structure Extracts (script : String) (tables : List Table) : Prop where
  limits : KeepsLimits script
  accepted : (Database.empty.runScript 0 script).failure = none
  read : List.Forall₂ (IsReadOff (Database.empty.runScript 0 script).database)
    (ownTables (Database.empty.runScript 0 script).database.main) tables
  sound : firstProblem? tables = none

/-- The catalog that a script leaves with the built-in engine. -/
theorem leaves_builtIn_iff {store : Database × Int} {entries : List CatalogEntry} :
    Leaves .builtIn script store entries ↔ KeepsLimits script ∧
      Database.empty.runScript 0 script = ⟨store.1, store.2, none⟩ ∧
      store.1.main.filterMap (·.listed?) = entries := by
  have hran : ofScript .builtIn script = .ok store ↔
      Engine.builtIn.execute (.empty, 0) script = .ok store := mapError_eq_ok_iff
  have hlisted : Engine.builtIn.entries store = .ok entries ↔
      store.1.main.filterMap (·.listed?) = entries := ⟨Except.ok.inj, congrArg _⟩
  rw [execute_builtIn_eq_ok_iff] at hran
  constructor
  · rintro ⟨h, h'⟩
    obtain ⟨hlimits, hrun⟩ := hran.1 h
    exact ⟨hlimits, hrun, hlisted.1 h'⟩
  · rintro ⟨hlimits, hrun, h'⟩
    exact ⟨hran.2 ⟨hlimits, hrun⟩, hlisted.2 h'⟩

/-- **Extraction is the reading of the main schema** behind a script. -/
theorem extractTables_eq_ok_iff :
    extractTables script .live = .ok tables ↔ Extracts script tables := by
  have hread : ∀ store : Database × Int, List.Forall₂
      (fun entry table => fetchTable .builtIn store entry = .ok table)
        (ownEntries (store.1.main.filterMap (·.listed?))) tables ↔
      List.Forall₂ (IsReadOff store.1) (ownTables store.1.main) tables := by
    intro store
    rw [ownEntries_listed, List.forall₂_map_left_iff]
    simp only [fetchTable_eq_ok_iff]
    rfl
  refine (extract_eq_ok_iff (e := .builtIn)).trans ⟨?_, fun h => ?_⟩
  · rintro ⟨store, entries, hleaves, hfetched, hproblem⟩
    obtain ⟨hlimits, hrun, rfl⟩ := leaves_builtIn_iff.1 hleaves
    refine ⟨hlimits, by rw [hrun], ?_, hproblem⟩
    rw [hrun]
    exact (hread store).1 hfetched
  · let outcome := Database.empty.runScript 0 script
    have hrun : Database.empty.runScript 0 script = ⟨outcome.database, outcome.lastId, none⟩ := by
      rw [← h.accepted]
    exact ⟨(outcome.database, outcome.lastId), _, leaves_builtIn_iff.2 ⟨h.limits, hrun, rfl⟩,
      (hread _).2 h.read, h.sound⟩

/-- An extracted table is read off a table of the main schema, with the columns of the table that its
name means. -/
theorem exists_of_extractTables (h : extractTables script .live = .ok tables) {table : Table}
    (hmem : table ∈ tables) :
    let db := (Database.empty.runScript 0 script).database
    ∃ t ∈ db.main.tables, table.name = t.name ∧ ∃ kind front,
      db.findTable? ⟨none, t.name⟩ = some (kind, front) ∧
      readTable t.catalogEntry front.catalogColumns = .ok table := by
  intro db
  obtain ⟨t, ht, columns, hcolumns, hread⟩ :=
    exists_of_forall₂ (extractTables_eq_ok_iff.1 h).read hmem
  have hmain : t ∈ db.main.tables := (List.mem_filter.1 ht).1
  obtain ⟨-, kind, front, hfind, rfl⟩ :=
    exists_of_catalogColumns hcolumns (Schema.hasRelation_of_mem hmain)
  exact ⟨t, hmain, (readTable_eq_ok_iff.1 hread).1, kind, front, hfind, hread⟩

end Catalog

end Tablewright
