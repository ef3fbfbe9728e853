import Tablewright.Proofs.AccessModule.LegalNames

/-!
# Constants of generated modules

The constants of a generated module are the names of its tables and, in a module for each table, of
its columns, in upper case. The check of collisions compares names in lower case, so constants are
distinct as far as capitals tell the names apart (`CapitalsDiffer`): `constants_distinct_iff`. They
do so where every letter comes back from its capital (`HasReversibleCase`), as ASCII letters do, and
the constant of all tables is met by none. Two names pass the
check and share their constant if one of them has a letter that does not come back
(`constants_clash`).
-/

namespace Tablewright.Naming

open Text

/-! ## Names and their capitals -/

/-- Every letter of the snake-case name comes back from its upper-case mapping. -/
def HasReversibleCase (name : String) : Prop :=
  ∀ c ∈ snakeChars name.toList, (uppercase c).flatMap lowercase = [c]

instance (name : String) : Decidable (HasReversibleCase name) :=
  decidable_of_iff
    ((snakeChars name.toList).all fun c => (uppercase c).flatMap lowercase == [c])
    (by simp [HasReversibleCase])

/-- Names that differ in snake case differ in upper case as well. -/
def CapitalsDiffer (names : List String) : Prop :=
  names.Pairwise fun a b => snakeCase a ≠ snakeCase b → screamingSnakeCase a ≠ screamingSnakeCase b

theorem flatMap_lowercase_screamingChars {name : String} (h : HasReversibleCase name) :
    (screamingChars name.toList).flatMap lowercase = snakeChars name.toList := by
  rw [screamingChars, List.flatMap_assoc, List.flatMap_congr h, List.flatMap_singleton']

/-- Lower-case mappings give the snake-case name back. -/
theorem snakeCase_eq_of_screaming {a b : String} (ha : HasReversibleCase a)
    (hb : HasReversibleCase b) (h : screamingSnakeCase a = screamingSnakeCase b) :
    snakeCase a = snakeCase b := by
  have hchars : screamingChars a.toList = screamingChars b.toList := String.ofList_inj.1 h
  rw [snakeCase, snakeCase, ← flatMap_lowercase_screamingChars ha, hchars,
    flatMap_lowercase_screamingChars hb]

theorem capitalsDiffer_of_reversible {names : List String} (h : ∀ n ∈ names, HasReversibleCase n) :
    CapitalsDiffer names :=
  List.pairwise_of_forall_mem_list fun _ ha _ hb hne heq =>
    hne (snakeCase_eq_of_screaming (h _ ha) (h _ hb) heq)

/-- Constants of names with distinct snake-case forms are distinct as far as capitals tell them
apart. -/
theorem nodup_screaming_iff {names : List String} (h : (names.map snakeCase).Nodup) :
    (names.map screamingSnakeCase).Nodup ↔ CapitalsDiffer names := by
  have hpairs : names.Pairwise fun a b => snakeCase a ≠ snakeCase b := List.pairwise_map.1 h
  rw [List.Nodup, List.pairwise_map, CapitalsDiffer]
  constructor
  · intro hne
    refine hne.imp ?_
    intro a b h _
    exact h
  · intro hdiffer
    exact (hpairs.and hdiffer).imp fun ⟨hne, himp⟩ => himp hne

end Tablewright.Naming

namespace Tablewright.AccessModule

open Naming

/-! ## Reading constants -/

/-- The names of the constants among the items of source. -/
def constantNames (ts : List Tree) : List String :=
  (items ts).filterMap fun i => if i.kind = "const" then i.name? else none

/-- The modules among the items of source: their names, and the names of the constants in them. -/
def constantsOfModules (ts : List Tree) : List (Option String × List String) :=
  ((items ts).filter fun i => i.kind = "mod").map fun i => (i.name?, constantNames i.body)

theorem constantNames_tables (tables : List Table) : constantNames (tableConstantTrees tables) =
    (tables.map (·.name)).map screamingSnakeCase ++ ["ALL"] := by
  have hconstants : ∀ l : List Table,
      (l.map fun t => constantItem (screamingSnakeCase t.name) t.name).filterMap
        (fun i => if i.kind = "const" then i.name? else none) =
          (l.map (·.name)).map screamingSnakeCase := by
    intro l
    rw [List.filterMap_map, List.map_map]
    exact List.filterMap_eq_map_iff_forall_eq_some.2 fun _ _ => rfl
  rw [constantNames, items_tableConstantTrees, List.filterMap_append, hconstants]
  rfl

theorem constantNames_columns (t : Table) : constantNames (columnConstantTrees t) =
    (t.columns.map (·.name)).map screamingSnakeCase := by
  rw [constantNames, items_columnConstantTrees, List.filterMap_map, List.map_map]
  exact List.filterMap_eq_map_iff_forall_eq_some.2 fun _ _ => rfl

theorem constantsOfModules_columns (tables : List Table) :
    constantsOfModules (tables.flatMap tableColumnsTrees) = tables.map fun t =>
      (some (fieldIdentifier t.name), (t.columns.map (·.name)).map screamingSnakeCase) := by
  have hmod : ∀ t : Table, Item.kind (.public "mod" (fieldIdentifier t.name) []
      (columnConstantTrees t)) = "mod" := fun _ => rfl
  rw [constantsOfModules, items_tableColumns, List.filter_eq_self.2 (by simp [hmod]), List.map_map]
  refine List.map_congr_left fun t _ => ?_
  rw [Function.comp_apply, ← constantNames_columns]
  rfl

/-- No table that passes the check meets the constant of all tables. -/
theorem nodup_tableConstants_iff {tables : List Table} (h : Distinct tables) :
    ((tables.map (·.name)).map screamingSnakeCase ++ ["ALL"]).Nodup ↔
      CapitalsDiffer (tables.map (·.name)) := by
  have hall : "ALL" ∉ (tables.map (·.name)).map screamingSnakeCase := by
    rw [List.map_map]
    intro hmem
    obtain ⟨t, ht, heq⟩ := List.mem_map.1 hmem
    exact h.notAll t ht heq
  have hsnake : ((tables.map (·.name)).map snakeCase).Nodup := by
    rw [List.map_map]
    exact h.tables
  rw [← nodup_screaming_iff hsnake, List.nodup_append]
  refine ⟨fun h => h.1, fun h => ⟨h, List.nodup_singleton _, ?_⟩⟩
  rintro _ hn _ hmem rfl
  exact hall (List.mem_singleton.1 hmem ▸ hn)

/-- Fields of different names have different names in snake case. -/
theorem nodup_columnConstants_iff {tables : List Table} (h : Distinct tables) {t : Table}
    (ht : t ∈ tables) : ((t.columns.map (·.name)).map screamingSnakeCase).Nodup ↔
      CapitalsDiffer (t.columns.map (·.name)) := by
  refine nodup_screaming_iff ?_
  have hfields : (((t.columns.map (·.name)).map snakeCase).map escapeKeyword).Nodup := by
    have hmap : t.columns.map (fun c => fieldIdentifier c.name) =
        ((t.columns.map (·.name)).map snakeCase).map escapeKeyword := by
      rw [List.map_map, List.map_map]
      exact List.map_congr_left fun c _ => by simp only [Function.comp_apply, fieldIdentifier]
    exact hmap ▸ h.fields t ht
  exact hfields.of_map _

/-- **The constants of a generated module are distinct exactly if capitals tell apart the names that
the check tells apart**, those of the tables and, in the module of each table, those of its columns;
in particular if every letter comes back from its capital. -/
theorem constants_distinct_iff {tables : List Table} {script : String} {options : GeneratorOptions}
    {m : AccessModule} (h : generate tables script options = .ok m) :
    ∃ root tableBody columnBody, (moduleBlock tables script options).trees? = some root ∧
      ((∀ t ∈ tables, KeepsToComments t.name) → readSource m.render = some root) ∧
      named "mod" "tables" root = [([], tableBody)] ∧
      named "mod" "columns" root = [([], columnBody)] ∧
      ((constantNames tableBody).Nodup ↔ CapitalsDiffer (tables.map (·.name))) ∧
      List.Forall₂ (fun t found => found.1 = some (fieldIdentifier t.name) ∧
          (found.2.Nodup ↔ CapitalsDiffer (t.columns.map (·.name))))
        tables (constantsOfModules columnBody) ∧
      ∀ names, (∀ n ∈ names, HasReversibleCase n) → CapitalsDiffer names := by
  obtain ⟨-, hcheck, -⟩ := generate_eq_ok_iff.1 h
  have hdistinct := distinct_of_checkCollisions hcheck
  obtain ⟨path, derives, hpath, hblock, -, hread⟩ := exists_moduleTrees h
  refine ⟨_, _, _, hblock, hread, named_tables hpath derives tables script,
    named_columns hpath derives tables script, ?_, ?_, fun _ => capitalsDiffer_of_reversible⟩
  · rw [constantNames_tables]
    exact nodup_tableConstants_iff hdistinct
  · rw [constantsOfModules_columns, List.forall₂_map_right_iff, List.forall₂_same]
    exact fun t ht => ⟨rfl, nodup_columnConstants_iff hdistinct ht⟩

/-- A table whose names have accents and letters of more than one script. -/
def accentedTable : Table :=
  ⟨"Übung", [.declare "höchsteÄnderung" .text true false false,
    .declare "Δοκιμή" .text false false false]⟩

theorem constants_distinct_of_accentedTable :
    ∃ m root tableBody columnBody, generate [accentedTable] "" {} = .ok m ∧
      (moduleBlock [accentedTable] "" {}).trees? = some root ∧
      named "mod" "tables" root = [([], tableBody)] ∧ (constantNames tableBody).Nodup ∧
      named "mod" "columns" root = [([], columnBody)] ∧
      ∃ constants, constantsOfModules columnBody = [(some "übung", constants)] ∧
        constants.Nodup := by
  have h : generate [accentedTable] "" {} = .ok (ofTables [accentedTable] "" {}) :=
    generate_eq_ok_iff.2 ⟨by decide, by decide +kernel, rfl⟩
  obtain ⟨root, tableBody, columnBody, hblock, -, htables, hcolumns, htable, hmodules, hdiffer⟩ :=
    constants_distinct_iff h
  have htableNames : ∀ n ∈ [accentedTable].map (·.name), HasReversibleCase n := by
    intro n hn
    rw [List.mem_singleton.1 hn]
    decide +kernel
  have hcolumnNames : ∀ n ∈ accentedTable.columns.map (·.name), HasReversibleCase n := by
    rintro n hn
    rcases List.mem_pair.1 hn with rfl | rfl
    · decide +kernel
    · decide +kernel
  have hfield : fieldIdentifier accentedTable.name = "übung" := by decide +kernel
  obtain ⟨found, hfound⟩ : ∃ found, constantsOfModules columnBody = [found] :=
    List.length_eq_one_iff.1 hmodules.length_eq.symm
  rw [hfound] at hmodules
  obtain ⟨hname, hnodup⟩ := (List.forall₂_cons.1 hmodules).1
  refine ⟨_, root, tableBody, columnBody, h, hblock, htables, htable.2 (hdiffer _ htableNames),
    hcolumns, found.2, ?_, hnodup.2 (hdiffer _ hcolumnNames)⟩
  rw [hfound, ← hfield, ← hname]

/-- A script that defines tables whose names have the same capitals, and so have two columns. -/
def clashingScript : String :=
  "CREATE TABLE \"ß\" (\"ß\" TEXT, ss TEXT); CREATE TABLE ss (x TEXT);"

/-- The tables that are extracted from it. -/
def clashingTables : List Table :=
  [⟨"ß", [⟨"ß", .text, false, false, true⟩, ⟨"ss", .text, false, false, true⟩]⟩,
    ⟨"ss", [⟨"x", .text, false, false, true⟩]⟩]

theorem constants_clash :
    extractTables clashingScript .live = .ok clashingTables ∧
      checkCollisions clashingTables = .ok () ∧
      ∃ m root tableBody columnBody, generate clashingTables clashingScript {} = .ok m ∧
        readSource m.render = some root ∧
        named "mod" "tables" root = [([], tableBody)] ∧
        constantNames tableBody = ["SS", "SS", "ALL"] ∧
        named "mod" "columns" root = [([], columnBody)] ∧
        constantsOfModules columnBody = [(some "ß", ["SS", "SS"]), (some "ss", ["X"])] := by
  have hcheck : checkCollisions clashingTables = .ok () := by decide +kernel
  have h : generate clashingTables clashingScript {} =
      .ok (ofTables clashingTables clashingScript {}) :=
    generate_eq_ok_iff.2 ⟨by decide, hcheck, rfl⟩
  have hcomments : ∀ t ∈ clashingTables, KeepsToComments t.name := by
    have hline : ∀ t ∈ clashingTables, '\n' ∉ t.name.toList := by decide +kernel
    exact fun t ht => OnOneLine.keepsToComments (hline t ht)
  obtain ⟨path, derives, hpath, -, -, hread⟩ := exists_moduleTrees h
  refine ⟨Catalog.extract_of_run String.toList_ofList (by decide +kernel) (by decide),
    hcheck, _, _, _, _, h, hread hcomments, named_tables hpath derives _ _, ?_,
    named_columns hpath derives _ _, ?_⟩
  · rw [constantNames_tables]
    decide +kernel
  · rw [constantsOfModules_columns]
    decide +kernel

end Tablewright.AccessModule
