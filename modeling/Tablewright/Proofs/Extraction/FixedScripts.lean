import Tablewright.Proofs.Database.FixedText
import Tablewright.Proofs.Extraction.BuiltIn

/-!
# Extraction from fixed scripts

The tables of a fixed script are found by computing on its characters, which are run
(`extract_of_run`). If a table has an integer key then its source has to be decoded, which is quick if
it is ASCII (`extract_of_toList`). A script that defines one table is extracted as what is read off
the catalog behind it, which is known (`extract_of_definition`). A scan only needs the lines
(`scan_of_lines`).
-/

namespace Tablewright.Catalog

open Sql

/-! ## Limits -/

/-- Whether characters and the statements in them keep to the limits. -/
def charsKeepLimits (cs : List Char) : Bool :=
  let lexemes := lexChars cs
  4 * cs.length ≤ longestText &&
    (readStatements lexemes (lexemes.length + 1)).1.all (·.isWithinLimits)

theorem keepsLimits_of_toList {script : String} {cs : List Char} (hcs : script.toList = cs)
    (h : charsKeepLimits cs = true) : KeepsLimits script := by
  subst hcs
  simp only [charsKeepLimits, Bool.and_eq_true, decide_eq_true_eq, List.all_eq_true] at h
  exact ⟨Nat.le_trans (Text.utf8ByteSize_le script) h.1, h.2⟩

/-- The only statement of a script is all that is read. -/
theorem readStatements_of_isStatement {script : String} {s : Statement} (h : IsStatement script s) :
    readStatements (lex script) ((lex script).length + 1) = ([s], none) := by
  obtain ⟨rest, hread, hrest⟩ := h
  have hbehind : ∀ fuel, readStatements rest fuel = ([], none) := by
    intro fuel
    cases fuel with
    | zero => rfl
    | succ fuel => rw [readStatements, hrest]
  rw [readStatements, hread]
  simp only [hbehind]

theorem keepsLimits_of_isStatement {script : String} {s : Statement} {cs : List Char}
    (hs : IsStatement script s) (hcs : script.toList = cs) (hlength : 4 * cs.length ≤ longestText)
    (hlimits : s.isWithinLimits = true) : KeepsLimits script := by
  subst hcs
  refine ⟨Nat.le_trans (Text.utf8ByteSize_le script) hlength, ?_⟩
  rw [readStatements_of_isStatement hs]
  simpa using hlimits

/-! ## Reading a table whose source is known -/

/-- A column of a table, with a given decision about which ones are autoincremented. -/
def columnBy (declares : String → Bool) (table : String) (c : CatalogColumn) :
    Except ExtractionError Column :=
  match Affinity.ofText c.declaredType with
  | .error _ => .error (.unknownType table c.name c.declaredType)
  | .ok affinity =>
    .ok (.declare c.name affinity c.isNotNull c.isPrimaryKey
      (c.isPrimaryKey && affinity = .integer && declares c.name))

theorem readColumn_eq_columnBy (table : String) (body : List Char) :
    readColumn table body = columnBy (declaresAutoIncrement body) table := by
  funext c
  unfold readColumn columnBy
  cases Affinity.ofText c.declaredType <;> rfl

/-- What the search finds in a source with these characters. -/
def declaresIn (cs : List Char) (column : String) : Bool :=
  declaresIncrement column.toList true (afterParenthesis ("CREATE TABLE ".toList ++ cs))

theorem readTable_of_toList {t : StoredTable} {cs : List Char} {told : List CatalogColumn}
    {columns : List Column} (hcs : t.source.toList = cs)
    (h : told.mapM (columnBy (declaresIn cs) t.name) = .ok columns) :
    readTable t.catalogEntry told = .ok ⟨t.name, columns⟩ := by
  have hdeclares : declaresAutoIncrement (definitionBody t.catalogEntry.definition) =
      declaresIn cs := by
    funext column
    rw [declaresAutoIncrement, definitionBody, StoredTable.catalogEntry, Option.getD_some,
      String.toList_append, hcs, declaresIn]
  rw [readTable, readColumn_eq_columnBy, hdeclares]
  change (do return (⟨t.name, ← told.mapM (columnBy (declaresIn cs) t.name)⟩ : Table)) = _
  rw [h]
  rfl

/-! ## Scripts that are run -/

theorem tables_addTable_nil (t : StoredTable) : Schema.tables (Database.addTable [] t) = [t] := by
  rw [Database.addTable]
  split <;> rfl

/-- The columns of the only table of a database. -/
theorem catalogColumns_addTable {t : StoredTable}
    (hquery : Text.sameName t.name Database.columnQueryName = false) :
    Database.catalogColumns ⟨Database.addTable [] t, []⟩ t.name = .ok t.catalogColumns := by
  obtain ⟨added, hadded, htables, hnames, -⟩ := Schema.exists_of_addTable [] t
  have hrelation : ∀ name, Schema.hasRelation (Database.addTable [] t) name =
      Text.sameName t.name name := by
    intro name
    rw [hadded, List.nil_append, Schema.hasRelation, hnames]
    simp
  have htable : Schema.table? (Database.addTable [] t) t.name = some t := by
    rw [hadded, List.nil_append, Schema.table?, htables]
    simp [Text.sameName_refl]
  have hnothing : ∀ name, Schema.hasRelation [] name = false := fun _ => rfl
  have hcolumnQuery : (Database.mk (Database.addTable [] t) []).hasColumnQuery = true := by
    simp [Database.hasColumnQuery, hrelation, hnothing, hquery]
  have hfind : (Database.mk (Database.addTable [] t) []).findTable? ⟨none, t.name⟩ =
      some (.main, t) := by
    simp [Database.findTable?, Database.locate?, Database.searchOrder, Database.schema, hnothing,
      hrelation, htable, Text.sameName_refl]
  exact catalogColumns_of_findTable? hcolumnQuery hfind

/-- **A script that defines one table** is extracted as what is read off the catalog, which lists the
definition and tells of its columns. -/
theorem extract_of_definition (script : String) (d : TableDefinition) (told : List CatalogColumn)
    (columns : List Column) {all cs : List Char} (hall : script.toList = all)
    (hread : readStatement (lexChars all) = .ok (some (.createTable d, [⟨[], [], .finish⟩])))
    (hlimits : 4 * all.length ≤ longestText ∧ (Statement.createTable d).isWithinLimits = true)
    (hplace : Database.empty.relationPlace d.name d.isTemporary = .ok (.main, false) ∧
      isInternalName d.name.name = false ∧
      Text.sameName d.name.name Database.columnQueryName = false)
    (hcs : d.source.toList = cs)
    (h : (StoredTable.ofDefinition? d).map (·.catalogColumns) = some told ∧
      told.mapM (columnBy (declaresIn cs) d.name.name) = .ok columns)
    (hproblem : firstProblem? [⟨d.name.name, columns⟩] = none) :
    extractTables script .live = .ok [⟨d.name.name, columns⟩] ∧
      ∀ store entries, Leaves .builtIn script store entries →
        ownEntries entries = [⟨d.name.name, some ("CREATE TABLE " ++ d.source)⟩] ∧
          Engine.builtIn.columns store d.name.name = .ok told := by
  obtain ⟨htold, hcolumns⟩ := h
  obtain ⟨t, ht, rfl⟩ := Option.map_eq_some_iff.1 htold
  obtain ⟨hplace, hinternal, hquery⟩ := hplace
  have hs : IsStatement script (.createTable d) := by
    rw [← lex_of_toList hall] at hread
    exact ⟨_, hread, rfl⟩
  have hcreate : Database.empty.createTable d = .ok ⟨Database.addTable [] t, []⟩ := by
    rw [Database.createTable, hplace, ok_bind, ht]
    rfl
  have hrun : Database.empty.runScript 0 script = ⟨⟨Database.addTable [] t, []⟩, 0, none⟩ := by
    rw [Database.runScript_of_isStatement hs]
    simp only [Database.run, Database.define, hcreate]
    rfl
  obtain ⟨hname, hsource⟩ : t.name = d.name.name ∧ t.source = d.source := by
    obtain ⟨_, _, _, -, -, -, -, rfl⟩ := StoredTable.exists_of_ofDefinition? ht
    exact ⟨rfl, rfl⟩
  rw [← hname] at hinternal hquery hproblem hcolumns ⊢
  rw [← hsource] at hcs ⊢
  have hown : ownTables (Database.addTable [] t) = [t] := by
    rw [ownTables, tables_addTable_nil]
    simp [hinternal]
  refine ⟨extractTables_eq_ok_iff.2
    ⟨keepsLimits_of_isStatement hs hall hlimits.1 hlimits.2, by rw [hrun], ?_, hproblem⟩, ?_⟩
  · rw [hrun, hown]
    exact .cons ⟨_, catalogColumns_addTable hquery, readTable_of_toList hcs hcolumns⟩ .nil
  · rintro ⟨db, lastId⟩ entries hleaves
    obtain ⟨-, hstore, rfl⟩ := leaves_builtIn_iff.1 hleaves
    rw [hrun] at hstore
    cases hstore
    rw [ownEntries_listed, hown]
    exact ⟨rfl, catalogColumns_addTable hquery⟩

/-- The tables that are read off the catalog behind characters that are run. -/
def tablesOfChars (cs : List Char) : Except ExtractionError (List Table) :=
  catalogTables .builtIn ((runChars cs).database, (runChars cs).lastId)

/-- A script is run as its characters are. -/
theorem ofScript_of_run {script : String} {cs : List Char} (hcs : script.toList = cs)
    (h : charsKeepLimits cs = true ∧ (runChars cs).failure = none) :
    ofScript .builtIn script = .ok ((runChars cs).database, (runChars cs).lastId) := by
  obtain ⟨hlimits, hfailure⟩ := h
  refine (leaves_builtIn_iff.2 ⟨keepsLimits_of_toList hcs hlimits, ?_, rfl⟩).ran
  rw [runScript_of_toList hcs, ← hfailure]

theorem extract_of_run {script : String} {cs : List Char} {tables : List Table}
    (hcs : script.toList = cs)
    (h : charsKeepLimits cs = true ∧ (runChars cs).failure = none ∧ tablesOfChars cs = .ok tables)
    (hproblem : firstProblem? tables = none) : extractTables script .live = .ok tables := by
  obtain ⟨hlimits, hfailure, hread⟩ := h
  have hread : catalogTables .builtIn ((runChars cs).database, (runChars cs).lastId) = .ok tables :=
    hread
  have hextract : extract .builtIn script = .ok tables := by
    rw [extract, ofScript_of_run hcs ⟨hlimits, hfailure⟩, ok_bind, hread, ok_bind]
    exact validated_eq_ok_iff.2 ⟨rfl, hproblem⟩
  exact hextract

theorem extract_error_of_run {script : String} {cs : List Char} {error : ExtractionError}
    (hcs : script.toList = cs)
    (h : charsKeepLimits cs = true ∧ (runChars cs).failure = none ∧ tablesOfChars cs = .error error) :
    extractTables script .live = .error error := by
  obtain ⟨hlimits, hfailure, hread⟩ := h
  have hread : catalogTables .builtIn ((runChars cs).database, (runChars cs).lastId) = .error error :=
    hread
  have hextract : extract .builtIn script = .error error := by
    rw [extract, ofScript_of_run hcs ⟨hlimits, hfailure⟩, ok_bind, hread]
    rfl
  exact hextract

/-- The tables read off stored ones with ASCII sources. -/
def readAscii? (db : Database) : List StoredTable → Option (List Table)
  | [] => some []
  | t :: rest =>
    if isInternalName t.name then readAscii? db rest
    else if (Text.bytes t.source).all (· < 128) then
      match db.catalogColumns t.name with
      | .error _ => none
      | .ok told =>
        match told.mapM (columnBy (declaresIn (Text.asciiChars t.source)) t.name),
          readAscii? db rest with
        | .ok columns, some tables => some (⟨t.name, columns⟩ :: tables)
        | _, _ => none
    else none

theorem forall₂_of_readAscii? {db : Database} {stored : List StoredTable} {tables : List Table}
    (h : readAscii? db stored = some tables) :
    List.Forall₂ (IsReadOff db) (stored.filter fun t => !isInternalName t.name) tables := by
  induction stored generalizing tables with
  | nil =>
    cases h
    exact .nil
  | cons t rest ih =>
    rw [readAscii?] at h
    rw [List.filter_cons]
    split at h
    case isTrue hinternal =>
      rw [hinternal]
      exact ih h
    case isFalse hinternal =>
      rw [if_pos (by simpa using hinternal)]
      split at h
      case isFalse => cases h
      case isTrue hascii =>
        split at h
        · cases h
        · rename_i told htold
          split at h
          · rename_i columns others hcolumns hothers
            cases h
            exact .cons ⟨told, htold, readTable_of_toList (Text.toList_eq_asciiChars hascii) hcolumns⟩
              (ih hothers)
          · cases h

/-- **The tables of a fixed script**, found from its characters. -/
theorem extract_of_toList {script : String} {cs : List Char} {tables : List Table}
    (hcs : script.toList = cs)
    (h : charsKeepLimits cs = true ∧ (runChars cs).failure = none ∧
      readAscii? (runChars cs).database (runChars cs).database.main.tables = some tables)
    (hproblem : firstProblem? tables = none) : extractTables script .live = .ok tables := by
  obtain ⟨hlimits, hfailure, hread⟩ := h
  rw [← runScript_of_toList hcs] at hfailure hread
  exact extractTables_eq_ok_iff.2 ⟨keepsLimits_of_toList hcs hlimits, hfailure,
    forall₂_of_readAscii? hread, hproblem⟩

/-! ## Scripts that are scanned -/

theorem lines_of_toList {text : String} {cs : List Char} (h : text.toList = cs) :
    Text.lines text = (Text.splitLines cs).map String.ofList :=
  h ▸ rfl

/-- A scan reads the lines and nothing else. -/
theorem scan_of_lines {script : String} {lines : List String} {s : Outline.Scan}
    (hlines : Text.lines script = lines) (hrun : Outline.Scan.start.run 1 lines = .ok s)
    (hproblem : firstProblem? s.finish = none) :
    extractTables script .pattern = .ok s.finish := by
  rw [extractTables, extractTablesBy, Outline.extract, Outline.scan, hlines, hrun]
  exact validated_eq_ok_iff.2 ⟨rfl, hproblem⟩

end Tablewright.Catalog
