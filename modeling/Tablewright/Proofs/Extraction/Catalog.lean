import Tablewright.Extraction.Strategy
import Tablewright.Proofs.FallibleSteps

/-!
# What is read off a catalog

Whatever engine runs a script, the tables that are extracted are those that its catalog lists, one by
one and in their order, each with the columns that the catalog tells of it (`extract_eq_ok_iff`); the
engine's own tables are passed over.
-/

namespace Tablewright.Catalog

/-! ## Tables -/

section Tables

variable {entry : CatalogEntry} {columns : List CatalogColumn} {table : Table}

/-- A table is read column by column. -/
theorem readTable_eq_ok_iff : readTable entry columns = .ok table ↔ table.name = entry.name ∧
    List.Forall₂ (fun c column =>
      readColumn entry.name (definitionBody entry.definition) c = .ok column) columns table.columns := by
  rw [readTable, ← mapM_eq_ok_iff]
  constructor
  · intro h
    obtain ⟨read, hread, h⟩ := exists_of_bind_eq_ok h
    cases h
    exact ⟨rfl, hread⟩
  · rintro ⟨hname, hcolumns⟩
    rw [hcolumns, ok_bind, ← hname]
    rfl

/-- The column at a position is read off the listed one there. -/
theorem readColumn_of_readTable (h : readTable entry columns = .ok table) :
    table.columns.length = columns.length ∧ ∀ (i : Nat) column, table.columns[i]? = some column →
      ∃ c, columns[i]? = some c ∧
        readColumn entry.name (definitionBody entry.definition) c = .ok column := by
  obtain ⟨hlength, hcolumns⟩ := List.forall₂_iff_get.1 (readTable_eq_ok_iff.1 h).2
  refine ⟨hlength.symm, fun i column hi => ?_⟩
  obtain ⟨hlt, rfl⟩ := List.getElem?_eq_some_iff.1 hi
  have hi' : i < columns.length := hlength ▸ hlt
  exact ⟨columns[i], List.getElem?_eq_getElem hi', hcolumns i hi' hlt⟩

/-- A table is read if each of its columns is. -/
theorem readTable_of_readColumn (hname : table.name = entry.name)
    (hlength : table.columns.length = columns.length)
    (hcolumns : ∀ (i : Nat) c column, columns[i]? = some c → table.columns[i]? = some column →
      readColumn entry.name (definitionBody entry.definition) c = .ok column) :
    readTable entry columns = .ok table := by
  refine readTable_eq_ok_iff.2 ⟨hname, List.forall₂_iff_get.2 ⟨hlength.symm, ?_⟩⟩
  intro i hi hi'
  exact hcolumns i _ _ (List.getElem?_eq_getElem hi) (List.getElem?_eq_getElem hi')

/-- What is read off a column: its affinity is that of the declared type, and it is autoincremented
if it is an INTEGER primary key and the text of the definition says so. -/
theorem readColumn_eq_ok_iff {table : String} {body : List Char} {c : CatalogColumn}
    {column : Column} : readColumn table body c = .ok column ↔
      ∃ affinity, Affinity.ofText c.declaredType = .ok affinity ∧
        column = .declare c.name affinity c.isNotNull c.isPrimaryKey
          (c.isPrimaryKey && affinity = .integer && declaresAutoIncrement body c.name) := by
  rw [readColumn]
  cases Affinity.ofText c.declaredType with
  | error e => simp
  | ok affinity => simp [eq_comm]

theorem names_of_readTable (h : readTable entry columns = .ok table) :
    table.columns.map (·.name) = columns.map (·.name) := by
  obtain ⟨hlength, hcolumns⟩ := readColumn_of_readTable h
  refine List.ext_getElem (by simpa using hlength) fun i h₁ h₂ => ?_
  obtain ⟨c, hc, hread⟩ := hcolumns i _ (List.getElem?_eq_getElem (by simpa using h₁))
  obtain ⟨_, rfl⟩ := List.getElem?_eq_some_iff.1 hc
  obtain ⟨affinity, -, hcolumn⟩ := readColumn_eq_ok_iff.1 hread
  simp [hcolumn, Column.declare]

/-- A table that is read fails only for a type that is unknown. -/
theorem exists_of_readTable_eq_error {e : ExtractionError} (h : readTable entry columns = .error e) :
    ∃ table column declared, e = .unknownType table column declared := by
  rw [readTable, bind_eq_error_iff] at h
  rcases h with h | ⟨_, -, h⟩
  · obtain ⟨c, -, h⟩ := exists_of_mapM_eq_error h
    rw [readColumn] at h
    split at h
    · cases h
      exact ⟨_, _, _, rfl⟩
    · cases h
  · cases h

end Tables

/-! ## Catalogs -/

theorem validated_eq_ok_iff {tables result : List Table} :
    validated tables = .ok result ↔ tables = result ∧ firstProblem? tables = none := by
  rw [validated]
  cases firstProblem? tables <;> simp

section Engine

variable {e : Engine} {store : e.Store} {tables : List Table}

theorem fetchTable_eq_ok_iff {entry : CatalogEntry} {table : Table} :
    fetchTable e store entry = .ok table ↔
      ∃ columns, e.columns store entry.name = .ok columns ∧ readTable entry columns = .ok table := by
  rw [fetchTable]
  constructor
  · intro h
    obtain ⟨columns, hcolumns, h⟩ := exists_of_bind_eq_ok h
    exact ⟨columns, mapError_eq_ok_iff.1 hcolumns, h⟩
  · rintro ⟨columns, hcolumns, h⟩
    rw [mapError_eq_ok_iff.2 hcolumns, ok_bind, h]

/-- The entries that are not the engine's own. -/
def ownEntries (entries : List CatalogEntry) : List CatalogEntry :=
  entries.filter fun entry => !isInternalName entry.name

/-- The entries of a catalog are read one by one; those of the engine itself are passed over. -/
theorem readTables_eq_ok_iff {entries : List CatalogEntry} :
    readTables e store entries = .ok tables ↔
      List.Forall₂ (fun entry table => fetchTable e store entry = .ok table) (ownEntries entries)
        tables := by
  induction entries generalizing tables with
  | nil =>
    rw [show ownEntries [] = [] from rfl, List.forall₂_nil_left_iff]
    exact ⟨fun h => (Except.ok.inj h).symm, fun h => h ▸ rfl⟩
  | cons entry rest ih =>
    rw [readTables, ownEntries, List.filter_cons]
    cases hname : isInternalName entry.name with
    | true => exact ih
    | false =>
      simp only [Bool.false_eq_true, if_false, Bool.not_false, if_true, List.forall₂_cons_left_iff]
      constructor
      · intro h
        obtain ⟨table, htable, h⟩ := exists_of_bind_eq_ok h
        obtain ⟨others, hothers, h⟩ := exists_of_bind_eq_ok h
        exact ⟨table, others, htable, ih.1 hothers, (Except.ok.inj h).symm⟩
      · rintro ⟨table, others, htable, hothers, rfl⟩
        rw [htable, ih.2 hothers]
        rfl

/-- The catalog that a script leaves. -/
structure Leaves (e : Engine) (script : String) (store : e.Store) (entries : List CatalogEntry) :
    Prop where
  ran : ofScript e script = .ok store
  listed : e.entries store = .ok entries

theorem catalogTables_eq_ok_iff : catalogTables e store = .ok tables ↔
    ∃ entries, e.entries store = .ok entries ∧ readTables e store entries = .ok tables := by
  rw [catalogTables, listedEntries]
  constructor
  · intro h
    obtain ⟨entries, hentries, h⟩ := exists_of_bind_eq_ok h
    exact ⟨entries, mapError_eq_ok_iff.1 hentries, h⟩
  · rintro ⟨entries, hentries, h⟩
    rw [mapError_eq_ok_iff.2 hentries, ok_bind, h]

/-- **Extraction is the reading of the catalog** behind a script that is accepted. -/
theorem extract_eq_ok_iff {script : String} : extract e script = .ok tables ↔
    ∃ store entries, Leaves e script store entries ∧
      List.Forall₂ (fun entry table => fetchTable e store entry = .ok table) (ownEntries entries)
        tables ∧
      firstProblem? tables = none := by
  rw [extract]
  constructor
  · intro h
    obtain ⟨store, hstore, h⟩ := exists_of_bind_eq_ok h
    obtain ⟨read, hread, h⟩ := exists_of_bind_eq_ok h
    obtain ⟨rfl, hproblem⟩ := validated_eq_ok_iff.1 h
    obtain ⟨entries, hentries, hread⟩ := catalogTables_eq_ok_iff.1 hread
    exact ⟨store, entries, ⟨hstore, hentries⟩, readTables_eq_ok_iff.1 hread, hproblem⟩
  · rintro ⟨store, entries, hleaves, hread, hproblem⟩
    rw [hleaves.ran, ok_bind,
      catalogTables_eq_ok_iff.2 ⟨entries, hleaves.listed, readTables_eq_ok_iff.2 hread⟩, ok_bind]
    exact validated_eq_ok_iff.2 ⟨rfl, hproblem⟩

theorem exists_of_forall₂ {α β : Type} {R : α → β → Prop} {l : List α} {l' : List β}
    (h : List.Forall₂ R l l') {b : β} (hb : b ∈ l') : ∃ a ∈ l, R a b := by
  induction h with
  | nil => cases hb
  | @cons a b' l l' hab _ ih =>
    rcases List.mem_cons.1 hb with rfl | hb
    · exact ⟨a, List.mem_cons_self, hab⟩
    · obtain ⟨a, ha, hab⟩ := ih hb
      exact ⟨a, List.mem_cons_of_mem _ ha, hab⟩

/-- An extracted table is read off an entry of the catalog and its columns. -/
theorem exists_of_extract {script : String} (h : extract e script = .ok tables) {table : Table}
    (hmem : table ∈ tables) :
    ∃ store entries, Leaves e script store entries ∧ ∃ entry ∈ entries, ∃ columns,
      e.columns store entry.name = .ok columns ∧ readTable entry columns = .ok table := by
  obtain ⟨store, entries, hleaves, hread, -⟩ := extract_eq_ok_iff.1 h
  obtain ⟨entry, hentry, hfetch⟩ := exists_of_forall₂ hread hmem
  exact ⟨store, entries, hleaves, entry, (List.mem_filter.1 hentry).1, fetchTable_eq_ok_iff.1 hfetch⟩

end Engine

end Tablewright.Catalog
