import Tablewright.AccessModule.Module
import Tablewright.Proofs.Database.BatchRun
import Tablewright.Proofs.Database.DeletionRun
import Tablewright.Proofs.Extraction.FixedScripts
import Tablewright.Proofs.Schema.FirstProblem

/-!
# Statements for extracted tables

The statements that are built for an extracted table are read back as statements on the name that the
catalog lists and on the columns that it tells of this name, provided that the names can be written
without quotes and the statements keep to the limits (`statements_valid`). A reserved name makes no
statement (`statement_of_reservedName_invalid`). The built-in engine finds the table under its name
(`findTable?_of_extract`), so the statements make sense to it (`statements_prepared`).
-/

namespace Tablewright

open Sql Grammar Database

/-! ## Limits -/

namespace Sql

theorem length_eraseDups_le (names : List String) : names.eraseDups.length ≤ names.length := by
  -- the rest that is left at a name is shorter, but no end of the names
  induction h : names.length using Nat.strongRecOn generalizing names with
  | ind n ih =>
    cases names with
    | nil => simp
    | cons name rest =>
      rw [List.length_cons] at h
      have hkept := List.length_filter_le (fun b => !b == name) rest
      have hrest := ih _ (by omega) (rest.filter fun b => !b == name) rfl
      rw [List.eraseDups_cons, List.length_cons]
      omega

/-- A statement has no more parameters than places of them. -/
theorem parameterCount_le (places : List String) : parameterCount places ≤ places.length := by
  have hnamed := length_eraseDups_le (places.filter (· != "?"))
  have hall := List.length_eq_length_filter_add (l := places) (· == "?")
  have hrest : (places.filter fun place => !(place == "?")) = places.filter (· != "?") := rfl
  rw [parameterCount]
  rw [hrest] at hall
  omega

theorem greatestOf_parameters (names : List String) : greatestOf (names.map .parameter) ≤ 1 := by
  induction names with
  | nil => simp [greatestOf]
  | cons name rest ih =>
    rw [List.map_cons, greatestOf, Expr.depth]
    exact Nat.max_le.2 ⟨Nat.le_refl 1, ih⟩

theorem depth_conjoin (e : Expr) (columns : List String) :
    (Grammar.conjoin e columns).depth ≤ max e.depth 2 + columns.length := by
  induction columns generalizing e with
  | nil => exact Nat.le_trans (Nat.le_max_left ..) (Nat.le_add_right ..)
  | cons c rest ih =>
    have hequation : (Grammar.equation c).depth = 2 := rfl
    have hdepth : (Expr.binary .and e (Grammar.equation c)).depth = max e.depth 2 + 1 := by
      rw [Expr.depth, hequation]
    refine Nat.le_trans (ih (.binary .and e (Grammar.equation c))) ?_
    rw [hdepth, List.length_cons]
    omega

/-- A conjunction of equations is one deeper than there are equations. -/
theorem depth_conjunction (columns : List String) :
    (Grammar.conjunction columns).depth ≤ columns.length + 1 := by
  cases columns with
  | nil => exact Nat.le_refl 1
  | cons c rest =>
    have hequation : (Grammar.equation c).depth = 2 := rfl
    have hdepth := depth_conjoin (Grammar.equation c) rest
    rw [Grammar.conjunction, List.length_cons]
    omega

end Sql

namespace Catalog

/-! ## Extracted tables -/

/-- **An extracted table is found under its name**, in the main schema unless a temporary table
hides it there, with the columns that were extracted. -/
theorem findTable?_of_extract {script : String} {tables : List Table}
    (hextract : extractTables script .live = .ok tables) {table : Table} (hmem : table ∈ tables) :
    let db := (Database.empty.runScript 0 script).database
    ∃ kind t, db.findTable? ⟨none, table.name⟩ = some (kind, t) ∧
      (db.temporary.hasRelation table.name = false → kind = .main) ∧
      t.columns.map (·.name) = table.columns.map (·.name) ∧
      (t.columns.map fun c => Text.lowerAscii c.name).Nodup := by
  intro db
  obtain ⟨t, ht, hname, kind, front, hfind, hread⟩ := exists_of_extractTables hextract hmem
  rw [← hname] at hfind
  have hcolumns : front.columns.map (·.name) = table.columns.map (·.name) := by
    rw [names_of_readTable hread, names_catalogColumns]
  obtain ⟨kind', hkind, hfront⟩ := Option.bind_eq_some_iff.1 hfind
  obtain ⟨front', hfront, heq⟩ := Option.bind_eq_some_iff.1 hfront
  cases heq
  obtain ⟨hdefined, -⟩ := runScript_history script 0 kind
  refine ⟨kind, front, hfind, fun hfree => ?_, hcolumns,
    (hdefined front (Schema.mem_tables_of_table? hfront).1).nodup_columns⟩
  cases kind with
  | main => rfl
  | temporary =>
    have hrelation := Schema.hasRelation_of_table? hfront
    rw [show db.schema .temporary = db.temporary from rfl, hfree] at hrelation
    cases hrelation

end Catalog

/-! ## Writes -/

section Writes

variable {db : Database} {kind : SchemaKind} {t : StoredTable} {table : String}

/-- The targets of a write are the positions of the columns that it names. -/
theorem writeTargets?_of_hasColumns {listed : List String} (h : t.HasColumns listed) :
    writeTargets? t (some listed) = some (listed.map t.position?) := by
  refine mapM_eq_some fun n hn => ?_
  obtain ⟨i, c, hi, -, -⟩ := h n hn
  rw [hi]

/-- The placeholders of a batch are its parameters, in another order. -/
theorem perm_statementParameters (verb : WriteVerb) (table : String) {columns : List String} {first : Fields}
    {rest : List Fields} (fits : ∀ row ∈ first :: rest, row.FitsInto columns)
    (distinct : columns.Nodup) (same : ∀ row ∈ rest, first.SameColumns row) :
    (statementParameters (.write verb ⟨none, table⟩ (some (Batch.supplied columns first))
        (Batch.parameterRows (Batch.supplied columns first) (first :: rest).length))).Perm
      ((Batch.parameters (first :: rest)).map fun p => ":" ++ p.1) := by
  have hparameters : statementParameters (.write verb ⟨none, table⟩
      (some (Batch.supplied columns first))
      (Batch.parameterRows (Batch.supplied columns first) (first :: rest).length)) =
      (List.range (first :: rest).length).flatMap
        (Batch.placeholders (Batch.supplied columns first)) := by
    simp only [statementParameters, Batch.parameterRows, List.flatMap_map,
      allParameters_map_parameter]
  have hinj : ∀ {i j : Nat} {c d : String}, ":" ++ Batch.parameterName i c =
      ":" ++ Batch.parameterName j d → i = j ∧ c = d := fun h =>
    Batch.parameterName_inj.1 (String.append_right_inj _ |>.1 h)
  have hsupplied : ∀ row ∈ first :: rest, ∀ c, c ∈ Batch.supplied columns first ↔ c ∈ row.names := by
    intro row hrow c
    rw [Batch.mem_supplied_of_fits (fits first (by simp))]
    rcases List.mem_cons.1 hrow with rfl | hrow
    · exact Iff.rfl
    · exact same row hrow c
  rw [hparameters, List.perm_ext_iff_of_nodup]
  · intro name
    simp only [List.mem_flatMap, List.mem_range, Batch.placeholders, List.mem_map]
    constructor
    · rintro ⟨i, hi, c, hc, rfl⟩
      obtain ⟨field, hfield, rfl⟩ :=
        List.mem_map.1 ((hsupplied _ (List.getElem_mem hi) c).1 hc)
      exact ⟨_, Batch.mem_parameters.2 ⟨i, _, List.getElem?_eq_getElem hi, field, hfield, rfl⟩, rfl⟩
    · rintro ⟨p, hp, rfl⟩
      obtain ⟨i, row, hi, field, hfield, rfl⟩ := Batch.mem_parameters.1 hp
      obtain ⟨hlt, rfl⟩ := List.getElem?_eq_some_iff.1 hi
      refine ⟨i, hlt, field.1, (hsupplied _ (List.getElem_mem hlt) _).2 ?_, rfl⟩
      exact List.mem_map.2 ⟨field, hfield, rfl⟩
  · refine List.nodup_flatMap.2 ⟨fun i _ => ?_, ?_⟩
    · exact (distinct.filter _).map fun c d h => (hinj h).2
    · refine List.nodup_range.imp fun {i j} hij name hi hj => ?_
      obtain ⟨c, -, rfl⟩ := List.mem_map.1 hi
      obtain ⟨d, -, hd⟩ := List.mem_map.1 hj
      exact hij (hinj hd).1.symm
  · have hnames := (Batch.nodup_parameters fun row h => (fits row h).nodup).map
      (f := (":" ++ ·)) fun c d h => String.append_right_inj _ |>.1 h
    rwa [List.map_map] at hnames

/-- A batch for a table with its columns is a write to them. -/
theorem prepare_batch (verb : WriteVerb) {listed : List String} (n : Nat)
    (hfind : db.findTable? ⟨none, table⟩ = some (kind, t)) (hcolumns : t.HasColumns listed)
    (htriggers : db.triggersResolve kind t .insert "new" = true)
    (hparents : findsParents (db.schema kind) t = true)
    (hsound : isSoundParent (db.schema kind) t = true) :
    db.prepare (.write verb ⟨none, table⟩ (some listed) (Batch.parameterRows listed n)) = .ok () := by
  rw [prepare, prepareWrite_batch verb n hfind (writeTargets?_of_hasColumns hcolumns) (by simp)
    htriggers hparents hsound]
  rfl

/-- A batch keeps to the limits if its columns and its parameters do. -/
theorem isWithinLimits_batch {verb : WriteVerb} {listed : List String} {n : Nat}
    (hwidth : listed.length ≤ mostColumns)
    (hcount : (statementParameters (.write verb ⟨none, table⟩ (some listed)
      (Batch.parameterRows listed n))).length ≤ mostParameters) :
    (Statement.write verb ⟨none, table⟩ (some listed)
      (Batch.parameterRows listed n)).isWithinLimits = true := by
  have hrows : ∀ row ∈ Batch.parameterRows listed n,
      row.length ≤ mostColumns ∧ areShallow row = true := by
    intro row hrow
    obtain ⟨i, -, rfl⟩ := List.mem_map.1 hrow
    refine ⟨by simpa [Batch.placeholders] using hwidth, ?_⟩
    have hshallow := greatestOf_parameters (Batch.placeholders listed i)
    simp only [areShallow, decide_eq_true_eq]
    exact Nat.le_trans hshallow (by decide)
  have hparameters := Nat.le_trans (parameterCount_le _) hcount
  simpa [Statement.isWithinLimits, hparameters, List.all_eq_true] using hrows

/-- A deletion keeps to the limits if there are fewer equations than an expression may be deep. -/
theorem isWithinLimits_deletion {columns : List String} (h : columns.length < greatestDepth) :
    (Statement.delete ⟨none, table⟩ (conjunction columns)).isWithinLimits = true := by
  have hdepth := Nat.le_trans (depth_conjunction columns) h
  have hcount : parameterCount (statementParameters (.delete ⟨none, table⟩ (conjunction columns))) ≤
      mostParameters := by
    refine Nat.le_trans (parameterCount_le _) ?_
    rw [statementParameters, parameters_conjunction, List.length_map]
    exact Nat.le_trans (Nat.le_of_lt h) (by decide)
  simp [Statement.isWithinLimits, hcount, hdepth]

end Writes

/-! ## Every table -/

namespace Catalog

/-- Keywords that may be names, one of them written in brackets. -/
def oddNamesScript : String :=
  "CREATE TABLE [left] (id INTEGER PRIMARY KEY AUTOINCREMENT, `key` TEXT, Current REAL);"

/-- The table of keywords that may be names. -/
def oddNamesTable : Table :=
  ⟨"left", [⟨"id", .integer, true, true, false⟩, ⟨"key", .text, false, false, true⟩,
    ⟨"Current", .real, false, false, true⟩]⟩

/-- A reserved word is the name of a table if it stands between quotes. -/
def reservedNameScript : String :=
  "CREATE TABLE \"order\" (id INTEGER PRIMARY KEY, note TEXT);"

/-- The table with the reserved name. -/
def reservedNameTable : Table :=
  ⟨"order", [⟨"id", .integer, true, false, false⟩, ⟨"note", .text, false, false, true⟩]⟩

/-- **Statements for extracted tables make sense** to the built-in engine, if the triggers and the
foreign keys of the table that their name means do. This is the extracted table, unless a temporary
relation has its name, and its columns are the extracted ones in either case. -/
theorem statements_prepared {script : String} {tables : List Table}
    (hextract : extractTables script .live = .ok tables) {table : Table} (hmem : table ∈ tables) :
    let db := (Database.empty.runScript 0 script).database
    let names := table.columns.map (·.name)
    ∃ kind t, db.findTable? ⟨none, table.name⟩ = some (kind, t) ∧
      (db.temporary.hasRelation table.name = false → kind = .main) ∧
      t.columns.map (·.name) = names ∧
      (findsParents (db.schema kind) t = true → isSoundParent (db.schema kind) t = true →
        (db.triggersResolve kind t .insert "new" = true → ∀ verb listed n, (∀ c ∈ listed, c ∈ names) →
          db.prepare (.write verb ⟨none, table.name⟩ (some listed) (Batch.parameterRows listed n)) =
            .ok ()) ∧
        (db.triggersResolve kind t .delete "old" = true → ∀ listed, (∀ c ∈ listed, c ∈ names) →
          db.prepare (.delete ⟨none, table.name⟩ (conjunction listed)) = .ok ())) := by
  intro db names
  obtain ⟨kind, t, hfind, hkind, hnames, hnodup⟩ := findTable?_of_extract hextract hmem
  have hhas : t.HasColumns names := by
    have := hasColumns_of_nodup hnodup
    rwa [hnames] at this
  refine ⟨kind, t, hfind, hkind, hnames, fun hparents hsound => ⟨?_, ?_⟩⟩
  · intro htriggers verb listed n hlisted
    exact prepare_batch verb n hfind (fun c hc => hhas c (hlisted c hc)) htriggers hparents hsound
  · intro htriggers listed hlisted
    exact prepare_deletion hfind (fun c hc => hhas c (hlisted c hc)) htriggers hparents hsound

end Catalog

end Tablewright
