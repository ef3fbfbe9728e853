import Tablewright.Proofs.AccessModule.SourceParts

/-!
# The trees of the schema section

What the schema section of a generated module is read as, part by part: the constants of the tables
and of the columns, the enumeration of the columns and its items (`spells_schemaSection`).
-/

namespace Tablewright.AccessModule

open Block Naming

/-! ## Names -/

/-- A public string constant. -/
def constantTrees (name : String) (value : String) : List Tree :=
  [.word "pub", .word "const", .word name, .mark ':', .mark '&', .word "str", .mark '=', .text value,
    .mark ';']

theorem lexed_constant {name value content : String} (hname : IsName name.toList)
    (hvalue : Lexed value [.text content]) :
    Lexed (constant name value) (flatten (constantTrees name content)) := by
  have hpub : Lexed "pub const " [.word "pub", .word "const"] :=
    lexed_ofList (by decide) fun _ => rfl
  have htype : Lexed ": &str = " [.mark ':', .mark '&', .word "str", .mark '='] :=
    lexed_ofList (by decide) fun _ => rfl
  have hends : EndsNames ": &str = " := endsNames_ofList (by decide)
  have hsemicolon : Lexed ";" [.mark ';'] := lexed_ofList (by decide) fun _ => rfl
  exact (((hpub.append_before hname.lexedBefore).append htype hends).append hvalue).append hsemicolon

/-- The list of the constants of all tables. -/
def allTablesTrees (tables : List Table) : List Tree :=
  [.word "pub", .word "const", .word "ALL", .mark ':', .mark '&',
    .group .square [.mark '&', .word "str"], .mark '=', .mark '&',
    .group .square (commaTrees (tables.map fun t => [.word (screamingSnakeCase t.name)])),
    .mark ';']

/-- The constants of the tables. -/
def tableConstantTrees (tables : List Table) : List Tree :=
  tables.flatMap (fun t => constantTrees (screamingSnakeCase t.name) t.name) ++ allTablesTrees tables

/-- The module of the tables. -/
def tablesTrees (tables : List Table) : List Tree :=
  [.word "pub", .word "mod", .word "tables", .group .curly (tableConstantTrees tables)]

theorem spells_tablesModule (tables : List Table) :
    (tablesModule tables).Spells ["/// SQL table names.", "/// Every table, in schema order."]
      (flatten (tablesTrees tables)) := by
  have hopen : Lexed "pub mod tables \x7b"
      [.word "pub", .word "mod", .word "tables", .opening .curly] :=
    lexed_ofList (by decide) fun _ => rfl
  have hall : Lexed "pub const ALL: &[&str] = &[" [.word "pub", .word "const", .word "ALL",
      .mark ':', .mark '&', .opening .square, .mark '&', .word "str", .closing .square, .mark '=',
      .mark '&', .opening .square] :=
    lexed_ofList (by decide) fun _ => rfl
  have hend : Lexed "];" [.closing .square, .mark ';'] := lexed_ofList (by decide) fun _ => rfl
  have hends : EndsNames "];" := endsNames_ofList (by decide)
  have hnames : LexedBefore
      (String.intercalate ", " (tables.map fun t => screamingSnakeCase t.name))
      (flatten (commaTrees (tables.map fun t => [.word (screamingSnakeCase t.name)]))) :=
    lexedBefore_intercalate fun t _ => (isName_screamingSnakeCase t.name).lexed_tree
  have hlist := (hall.append_before hnames).append hend hends
  have hdoc : isRemark "/// SQL table names." = true := isRemark_ofList _
  have halldoc : isRemark "/// Every table, in schema order." = true := isRemark_ofList _
  have hconstants : Spells (tables.flatMap fun t =>
      line (constant (screamingSnakeCase t.name) (Text.quote t.name))) []
      (flatten (tables.flatMap fun t => constantTrees (screamingSnakeCase t.name) t.name)) := by
    rw [flatten_flatMap]
    exact .flatMap fun t _ =>
      .line (lexed_constant (isName_screamingSnakeCase t.name) (lexed_quote t.name)).before
  have hblank : Spells (if tables.isEmpty then [] else blank) [] [] := by
    split
    · exact .nil
    · exact .blank .nil
  have hspells := (Spells.remark hdoc).append (Spells.wrap hopen.before
    (((hconstants.append hblank).append (Spells.remark halldoc)).append
      (Spells.line hlist.before)) lexed_curly.before)
  simpa [tablesModule, tablesTrees, tableConstantTrees, allTablesTrees, Tree.tokens] using hspells

/-- The constants of the columns of a table. -/
def columnConstantTrees (t : Table) : List Tree :=
  t.columns.flatMap fun c => constantTrees (screamingSnakeCase c.name) (t.qualified c)

/-- The module of the columns of a table. -/
def tableColumnsTrees (t : Table) : List Tree :=
  [.word "pub", .word "mod", .word (fieldIdentifier t.name), .group .curly (columnConstantTrees t)]

/-- The module of the columns. -/
def columnsTrees (tables : List Table) : List Tree :=
  [.word "pub", .word "mod", .word "columns", .group .curly (tables.flatMap tableColumnsTrees)]

theorem spells_tableColumns (t : Table) :
    (tableColumns t).Spells [] (flatten (tableColumnsTrees t)) := by
  have hmod : Lexed "pub mod " [.word "pub", .word "mod"] := lexed_ofList (by decide) fun _ => rfl
  have hopen := (hmod.append_before (isName_fieldIdentifier t.name).lexedBefore).append
    lexed_opening endsNames_opening
  have hconstants : Spells (t.columns.flatMap fun c =>
      line (constant (screamingSnakeCase c.name) (Text.quote (t.qualified c)))) []
      (flatten (columnConstantTrees t)) := by
    rw [columnConstantTrees, flatten_flatMap]
    exact .flatMap fun c _ =>
      .line (lexed_constant (isName_screamingSnakeCase c.name) (lexed_quote _)).before
  have hspells := Spells.wrap hopen.before hconstants lexed_curly.before
  simpa [tableColumns, tableColumnsTrees, Tree.tokens] using hspells

theorem spells_columnsModule (tables : List Table) :
    (columnsModule tables).Spells ["/// Qualified `table.column` names, one module per table."]
      (flatten (columnsTrees tables)) := by
  have hopen : Lexed "pub mod columns \x7b"
      [.word "pub", .word "mod", .word "columns", .opening .curly] :=
    lexed_ofList (by decide) fun _ => rfl
  have hdoc : isRemark "/// Qualified `table.column` names, one module per table." = true :=
    isRemark_ofList _
  have htables : (separated (tables.map tableColumns)).Spells []
      (tables.flatMap fun t => flatten (tableColumnsTrees t)) :=
    .separated fun t _ => spells_tableColumns t
  have hspells := (Spells.remark hdoc).append
    (Spells.wrap hopen.before htables lexed_curly.before)
  simpa [columnsModule, columnsTrees, flatten_flatMap, Tree.tokens] using hspells

/-! ## The enumeration of columns -/

theorem isName_variant (t : Table) (c : Column) : IsName (variant t c).toList := by
  have hcolumn := isNamePart_upperCamelChars c.name.toList
  have htable := isNamePart_upperCamelChars t.name.toList
  rw [variant, String.toList_append, upperCamelCase, upperCamelCase, String.toList_ofList,
    String.toList_ofList]
  refine isName_of_forall ?_ (List.forall_mem_append.2 ⟨htable, hcolumn⟩)
  exact List.append_ne_nil_of_left_ne_nil (guardLeadingDigit_ne_nil _) _

/-- A variant, as it is referred to. -/
def variantTrees (p : Table × Column) : List Tree :=
  [.word "AllColumns", .mark ':', .mark ':', .word (variant p.1 p.2)]

theorem lexedBefore_variantPath (t : Table) (c : Column) :
    LexedBefore (variantPath t c) (flatten (variantTrees (t, c))) := by
  have htype : Lexed "AllColumns::" [.word "AllColumns", .mark ':', .mark ':'] :=
    lexed_ofList (by decide) fun _ => rfl
  exact htype.append_before (isName_variant t c).lexedBefore

/-- The constant of a qualified column name, as it is referred to. -/
def columnTrees (p : Table × Column) : List Tree :=
  [.word "columns", .mark ':', .mark ':', .word (fieldIdentifier p.1.name), .mark ':', .mark ':',
    .word (screamingSnakeCase p.2.name)]

theorem lexedBefore_columnPath (t : Table) (c : Column) :
    LexedBefore (columnPath t c) (flatten (columnTrees (t, c))) := by
  have hcolumns : Lexed "columns::" [.word "columns", .mark ':', .mark ':'] :=
    lexed_ofList (by decide) fun _ => rfl
  have hcolons : Lexed "::" [.mark ':', .mark ':'] := lexed_ofList (by decide) fun _ => rfl
  have hends : EndsNames "::" := endsNames_ofList (by decide)
  exact ((hcolumns.append_before (isName_fieldIdentifier t.name).lexedBefore).append hcolons
    hends).append_before (isName_screamingSnakeCase c.name).lexedBefore

theorem spells_perColumn (tables : List Table) {f : Table → Column → String}
    {g : Table × Column → List Tree} (h : ∀ t c, LexedBefore (f t c) (flatten (g (t, c)))) :
    (perColumn tables fun t c => f t c ++ ",").Spells []
      (flatten ((allColumns tables).flatMap fun p => g p ++ [.mark ','])) := by
  rw [flatten_flatMap]
  refine .flatMap fun p _ => .line ?_
  rw [flatten_append]
  exact ((h p.1 p.2).append lexed_comma endsNames_comma).before

/-- The variants. -/
def variantNameTrees (tables : List Table) : List Tree :=
  (allColumns tables).flatMap fun p => ([.word (variant p.1 p.2)] : List Tree) ++ ([.mark ','] : List Tree)

/-- The enumeration. -/
def enumerationTrees (tables : List Table) : List Tree :=
  attributeTrees [.word "derive", .group .round (commaTrees [[.word "Debug"], [.word "Clone"],
      [.word "Copy"], [.word "PartialEq"], [.word "Eq"], [.word "Hash"]])] ++
    ([.word "pub", .word "enum", .word "AllColumns", .group .curly (variantNameTrees tables)] :
      List Tree)

theorem spells_enumeration (tables : List Table) :
    (enumeration tables).Spells ["/// Every qualified column of the schema."]
      (flatten (enumerationTrees tables)) := by
  have hderive : Lexed "#[derive(Debug, Clone, Copy, PartialEq, Eq, Hash)]"
      (flatten (attributeTrees [.word "derive", .group .round (commaTrees [[.word "Debug"],
        [.word "Clone"], [.word "Copy"], [.word "PartialEq"], [.word "Eq"], [.word "Hash"]])])) :=
    lexed_ofList (by decide) fun _ => rfl
  have hopen : Lexed "pub enum AllColumns \x7b"
      [.word "pub", .word "enum", .word "AllColumns", .opening .curly] :=
    lexed_ofList (by decide) fun _ => rfl
  have hvariants : (perColumn tables fun t c => variant t c ++ ",").Spells []
      (flatten (variantNameTrees tables)) :=
    spells_perColumn tables fun t c => (isName_variant t c).lexed_tree
  have hdoc : isRemark "/// Every qualified column of the schema." = true := isRemark_ofList _
  have hspells := ((Spells.remark hdoc).append (Spells.line hderive.before)).append
    (Spells.wrap hopen.before hvariants lexed_curly.before)
  simpa [enumeration, enumerationTrees, Tree.tokens] using hspells

/-- The list of all variants. -/
def variantListTrees (tables : List Table) : List Tree :=
  [.word "pub", .word "const", .word "ALL", .mark ':', .mark '&', .mark '\'', .word "static",
    .group .square [.word "AllColumns"], .mark '=', .mark '&',
    .group .square ((allColumns tables).flatMap fun p => variantTrees p ++ [.mark ',']), .mark ';']

/-- The arms that answer by the variant. -/
def armTrees (tables : List Table) (answer : Table × Column → List Tree) : List Tree :=
  (allColumns tables).flatMap fun p =>
    variantTrees p ++ ([.mark '=', .mark '>'] : List Tree) ++ answer p ++ ([.mark ','] : List Tree)

theorem spells_variantList (tables : List Table) :
    (variantList tables).Spells ["/// Every column, in schema order."]
      (flatten (variantListTrees tables)) := by
  have hopen : Lexed "pub const ALL: &'static [AllColumns] = &[" [.word "pub", .word "const",
      .word "ALL", .mark ':', .mark '&', .mark '\'', .word "static", .opening .square,
      .word "AllColumns", .closing .square, .mark '=', .mark '&', .opening .square] :=
    lexed_ofList (by decide) fun _ => rfl
  have hend : Lexed "];" [.closing .square, .mark ';'] := lexed_ofList (by decide) fun _ => rfl
  have hvariants : (perColumn tables fun t c => variantPath t c ++ ",").Spells []
      (flatten ((allColumns tables).flatMap fun p => variantTrees p ++ [.mark ','])) :=
    spells_perColumn tables lexedBefore_variantPath
  have hdoc : isRemark "/// Every column, in schema order." = true := isRemark_ofList _
  have hspells := (Spells.remark hdoc).append (Spells.wrap hopen.before hvariants hend.before)
  simpa [variantList, variantListTrees, Tree.tokens] using hspells

/-- A method of the enumeration that answers by the variant. -/
def byVariantTrees (tables : List Table) (name : String) (answer : Table × Column → List Tree) :
    List Tree :=
  [.word "pub", .word "fn", .word name, .group .round [.word "self"], .mark '-', .mark '>',
    .mark '&', .mark '\'', .word "static", .word "str", .group .curly
      [.word "match", .word "self", .group .curly (armTrees tables answer)]]

theorem spells_byVariant (tables : List Table) {doc signature name : String}
    {answer : Table → Column → String} {g : Table × Column → List Tree} (hdoc : isRemark doc = true)
    (hsignature : LexedBefore signature (([.word "pub", .word "fn", .word name, .opening .round,
      .word "self", .closing .round, .mark '-', .mark '>', .mark '&', .mark '\'',
      .word "static"] : List Token) ++ ([.word "str"] : List Token)))
    (hanswer : ∀ t c, LexedBefore (answer t c) (flatten (g (t, c)))) :
    (byVariant tables doc signature answer).Spells [doc]
      (flatten (byVariantTrees tables name g)) := by
  have hmatch : Lexed "match self \x7b" [.word "match", .word "self", .opening .curly] :=
    lexed_ofList (by decide) fun _ => rfl
  have harrow : Lexed " => " [.mark '=', .mark '>'] := lexed_ofList (by decide) fun _ => rfl
  have hends : EndsNames " => " := endsNames_ofList (by decide)
  have harm : ∀ t c, LexedBefore (variantPath t c ++ " => " ++ answer t c)
      (flatten (variantTrees (t, c) ++ [.mark '=', .mark '>'] ++ g (t, c))) := by
    intro t c
    rw [flatten_append, flatten_append]
    exact ((lexedBefore_variantPath t c).append harrow hends).append_before (hanswer t c)
  have harms : (perColumn tables fun t c => variantPath t c ++ " => " ++ answer t c ++ ",").Spells []
      (flatten (armTrees tables g)) :=
    spells_perColumn tables harm
  have hspells := (Spells.remark hdoc).append
    (Spells.wrap (hsignature.append lexed_opening endsNames_opening).before
      (Spells.wrap hmatch.before harms lexed_curly.before) lexed_curly.before)
  simpa [byVariant, byVariantTrees, Tree.tokens] using hspells

/-- The method that puts an alias in place of the table. -/
def aliasTrees : List Tree :=
  [.word "pub", .word "fn", .word "alias", .group .round [.word "self", .mark ',',
    .word "table_alias", .mark ':', .mark '&', .word "str"], .mark '-', .mark '>', .word "String",
    .group .curly [.word "rt", .mark ':', .mark ':', .word "alias", .group .round
      [.word "table_alias", .mark ',', .word "self", .mark '.', .word "as_str", .group .round []]]]

/-- The items of the enumeration, in order. -/
def enumerationBodyTrees (tables : List Table) : List Tree :=
  variantListTrees tables ++ byVariantTrees tables "as_str" columnTrees ++
    byVariantTrees tables "column_name" (fun p => [.text p.2.name]) ++ aliasTrees

/-- The items of the enumeration. -/
def enumerationItemsTrees (tables : List Table) : List Tree :=
  [.word "impl", .word "AllColumns", .group .curly (enumerationBodyTrees tables)]

theorem spells_enumerationItems (tables : List Table) :
    (enumerationItems tables).Spells ["/// Every column, in schema order.",
      "/// Qualified `table.column` name.", "/// Column name without its table.",
      "/// Column name qualified by `table_alias` instead of its table."]
      (flatten (enumerationItemsTrees tables)) := by
  have hopen : Lexed "impl AllColumns \x7b" [.word "impl", .word "AllColumns", .opening .curly] :=
    lexed_ofList (by decide) fun _ => rfl
  have hasStr : LexedBefore "pub fn as_str(self) -> &'static str" (([.word "pub", .word "fn",
      .word "as_str", .opening .round, .word "self", .closing .round, .mark '-', .mark '>',
      .mark '&', .mark '\'', .word "static"] : List Token) ++ ([.word "str"] : List Token)) :=
    lexedBefore_ofList (by decide) fun _ => rfl
  have hasStrDoc : isRemark "/// Qualified `table.column` name." = true := isRemark_ofList _
  have hname : LexedBefore "pub fn column_name(self) -> &'static str" (([.word "pub", .word "fn",
      .word "column_name", .opening .round, .word "self", .closing .round, .mark '-', .mark '>',
      .mark '&', .mark '\'', .word "static"] : List Token) ++ ([.word "str"] : List Token)) :=
    lexedBefore_ofList (by decide) fun _ => rfl
  have hnameDoc : isRemark "/// Column name without its table." = true := isRemark_ofList _
  have halias : Lexed "pub fn alias(self, table_alias: &str) -> String \x7b" [.word "pub",
      .word "fn", .word "alias", .opening .round, .word "self", .mark ',', .word "table_alias",
      .mark ':', .mark '&', .word "str", .closing .round, .mark '-', .mark '>', .word "String",
      .opening .curly] :=
    lexed_ofList (by decide) fun _ => rfl
  have hcall : Lexed "rt::alias(table_alias, self.as_str())" [.word "rt", .mark ':', .mark ':',
      .word "alias", .opening .round, .word "table_alias", .mark ',', .word "self", .mark '.',
      .word "as_str", .opening .round, .closing .round, .closing .round] :=
    lexed_ofList (by decide) fun _ => rfl
  have haliasDoc : isRemark "/// Column name qualified by `table_alias` instead of its table." = true :=
    isRemark_ofList _
  have hlast := (Spells.remark haliasDoc).append
    (Spells.wrap halias.before (Spells.line hcall.before) lexed_curly.before)
  have hitems := Spells.separated_cons (spells_variantList tables)
    (.separated_cons (spells_byVariant tables hasStrDoc hasStr lexedBefore_columnPath)
      (.separated_cons (spells_byVariant tables hnameDoc hname
        (g := fun p => [.text p.2.name]) fun _ c => (lexed_quote c.name).before) (.separated_one hlast)))
  have hspells := Spells.wrap hopen.before hitems lexed_curly.before
  simpa [enumerationItems, enumerationItemsTrees, enumerationBodyTrees, aliasTrees,
    Tree.tokens] using hspells

/-- The method that displays a column. -/
def displayBodyTrees : List Tree :=
  [.word "fn", .word "fmt", .group .round [.mark '&', .word "self", .mark ',', .word "f",
    .mark ':', .mark '&', .word "mut", .word "std", .mark ':', .mark ':', .word "fmt",
    .mark ':', .mark ':', .word "Formatter", .mark '<', .mark '\'', .word "_", .mark '>'],
    .mark '-', .mark '>', .word "std", .mark ':', .mark ':', .word "fmt", .mark ':', .mark ':',
    .word "Result", .group .curly [.word "f", .mark '.', .word "write_str", .group .round
      [.word "self", .mark '.', .word "as_str", .group .round []]]]

/-- How a column is displayed. -/
def displayTrees : List Tree :=
  [.word "impl", .word "std", .mark ':', .mark ':', .word "fmt", .mark ':', .mark ':',
    .word "Display", .word "for", .word "AllColumns", .group .curly displayBodyTrees]

theorem spells_display : display.Spells [] (flatten displayTrees) := by
  have himpl : Lexed "impl std::fmt::Display for AllColumns \x7b" [.word "impl", .word "std",
      .mark ':', .mark ':', .word "fmt", .mark ':', .mark ':', .word "Display", .word "for",
      .word "AllColumns", .opening .curly] :=
    lexed_ofList (by decide) fun _ => rfl
  have hfn : Lexed "fn fmt(&self, f: &mut std::fmt::Formatter<'_>) -> std::fmt::Result \x7b"
      [.word "fn", .word "fmt", .opening .round, .mark '&', .word "self", .mark ',', .word "f",
      .mark ':', .mark '&', .word "mut", .word "std", .mark ':', .mark ':', .word "fmt", .mark ':',
      .mark ':', .word "Formatter", .mark '<', .mark '\'', .word "_", .mark '>', .closing .round,
      .mark '-', .mark '>', .word "std", .mark ':', .mark ':', .word "fmt", .mark ':', .mark ':',
      .word "Result", .opening .curly] :=
    lexed_ofList (by decide) fun _ => rfl
  have hwrite : Lexed "f.write_str(self.as_str())" [.word "f", .mark '.', .word "write_str",
      .opening .round, .word "self", .mark '.', .word "as_str", .opening .round, .closing .round,
      .closing .round] :=
    lexed_ofList (by decide) fun _ => rfl
  have hspells := Spells.wrap himpl.before (Spells.wrap hfn.before (Spells.line hwrite.before)
    lexed_curly.before) lexed_curly.before
  simpa [display, displayTrees, displayBodyTrees, Tree.tokens] using hspells

/-! ## The section -/

/-- The import of the runtime library. -/
def useTrees (path : List Tree) : List Tree :=
  .word "use" :: (path ++ ([.word "as", .word "rt", .mark ';'] : List Tree))

theorem lexed_use {path : String} {ts : List Tree} (h : LexedBefore path (flatten ts)) :
    Lexed ("use " ++ path ++ " as rt;") (flatten (useTrees ts)) := by
  have huse : Lexed "use " [.word "use"] := lexed_ofList (by decide) fun _ => rfl
  have has : Lexed " as rt;" [.word "as", .word "rt", .mark ';'] :=
    lexed_ofList (by decide) fun _ => rfl
  have hends : EndsNames " as rt;" := endsNames_ofList (by decide)
  simpa [useTrees, Tree.tokens] using (huse.append_before h).append has hends

/-- The schema section, with the path of the runtime library. -/
def schemaTrees (path : List Tree) (tables : List Table) (script : String) : List Tree :=
  useTrees path ++ (constantTrees "CREATE_TABLE" script ++ (tablesTrees tables ++
    (columnsTrees tables ++ (enumerationTrees tables ++ (enumerationItemsTrees tables ++
      displayTrees)))))

/-- The comments of the schema section. -/
def schemaRemarks : List String :=
  ["/// Schema script this module was generated from.", "/// SQL table names.",
    "/// Every table, in schema order.", "/// Qualified `table.column` names, one module per table.",
    "/// Every qualified column of the schema.", "/// Every column, in schema order.",
    "/// Qualified `table.column` name.", "/// Column name without its table.",
    "/// Column name qualified by `table_alias` instead of its table."]

/-- **What the schema section is read as.** -/
theorem spells_schemaSection {options : GeneratorOptions} {path : List Tree}
    (hpath : LexedBefore options.runtimeCrate (flatten path)) (tables : List Table)
    (script : String) :
    (schemaSection tables script options).Spells schemaRemarks
      (flatten (schemaTrees path tables script)) := by
  have hdoc : isRemark "/// Schema script this module was generated from." = true := isRemark_ofList _
  have hname : IsName "CREATE_TABLE".toList :=
    isName_of_forall (by decide) (List.all_eq_true.1 (by decide))
  have hscript : (line "/// Schema script this module was generated from." ++
      line (constant "CREATE_TABLE" (literal script))).Spells
      ["/// Schema script this module was generated from."]
      (flatten (constantTrees "CREATE_TABLE" script)) :=
    (Spells.remark hdoc).append (.line (lexed_constant hname (lexed_literal script)).before)
  have hsection := Spells.separated_cons (.line (lexed_use hpath).before)
    (.separated_cons hscript (.separated_cons (spells_tablesModule tables)
      (.separated_cons (spells_columnsModule tables) (.separated_cons (spells_enumeration tables)
        (.separated_cons (spells_enumerationItems tables) (.separated_one spells_display))))))
  simp only [schemaTrees, flatten_append]
  exact hsection

end Tablewright.AccessModule
