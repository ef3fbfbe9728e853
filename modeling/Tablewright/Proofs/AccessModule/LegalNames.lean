import Tablewright.Proofs.Extraction.FixedScripts
import Tablewright.Proofs.Naming.LegalIdentifiers

/-!
# Names that generated modules declare

The names that a generated module declares are read off its items (`declaredNames`): those of the
items, also of the items within modules and implementations, of the fields of structs and of the
variants of enumerations. All that are made of an ASCII name are legal exactly if the name holds a
letter or a digit (`declaredNames_legal_iff`). A name without any becomes the lone underscore, which
is no name (`declaredNames_lone_underscore`).
-/

namespace Tablewright.AccessModule

open Naming

/-! ## Reading declared names -/

namespace Item

/-- What stands in front of the braces of an item, without its visibility. -/
def signature (i : Item) : List Tree :=
  match i.head with
  | .word p :: rest => if p = "pub" then rest else .word p :: rest
  | head => head

/-- The keyword of an item. -/
def kind (i : Item) : String :=
  match i.signature with
  | .word k :: _ => k
  | _ => ""

/-- The name of an item. -/
def name? (i : Item) : Option String :=
  if i.kind ∈ ["mod", "const", "fn", "struct", "enum"] then
    match i.signature with
    | _ :: .word n :: _ => some n
    | _ => none
  else none

/-- The items between the braces of a module or an implementation. -/
def inner (i : Item) : List Item :=
  if i.kind = "mod" ∨ i.kind = "impl" then items i.body else []

end Item

/-- The name of a field or of a variant. -/
def memberName? : List Tree → Option String
  | .word p :: .word n :: .mark c :: _ => if p = "pub" ∧ c = ':' then some n else none
  | [.word n] => some n
  | _ => none

/-- The names that an item declares: its own, and those of its fields or variants. -/
def Item.names (i : Item) : List String :=
  i.name?.toList ++
    if i.kind = "struct" ∨ i.kind = "enum" then (parts i.body).filterMap memberName? else []

/-- The names that items declare, and those within them declare, to the depth of modules in
modules. -/
def declaredNames (root : List Tree) : List String :=
  let outer := items root
  let inner := outer.flatMap Item.inner
  outer.flatMap Item.names ++ inner.flatMap Item.names ++
    (inner.flatMap Item.inner).flatMap Item.names

/-! ## Names of a generated module -/

theorem names_members (ms : List Member) :
    (parts (memberListTrees ms)).filterMap memberName? = ms.map Member.identifier := by
  have hcomma : ∀ m ∈ ms, commaFree (memberTrees m) = true := by
    intro m _
    rw [memberTrees, typeTrees]
    cases m.presence.isOptional <;> cases m.type <;> rfl
  rw [memberListTrees, parts_flatMap hcomma, List.filterMap_map]
  exact List.filterMap_eq_map_iff_forall_eq_some.2 fun m _ => rfl

theorem names_variants (tables : List Table) :
    (parts (variantNameTrees tables)).filterMap memberName? =
      (allColumns tables).map fun p => variant p.1 p.2 := by
  have hparts := parts_flatMap (l := allColumns tables) (f := fun p => [.word (variant p.1 p.2)])
    fun _ _ => rfl
  rw [variantNameTrees, hparts, List.filterMap_map]
  exact List.filterMap_eq_map_iff_forall_eq_some.2 fun m _ => rfl

theorem names_constants {α : Type} (l : List α) (name value : α → String) :
    (l.map fun a => constantItem (name a) (value a)).flatMap Item.names = l.map name := by
  rw [List.flatMap_map, List.map_eq_flatMap]
  exact List.flatMap_congr fun _ _ => rfl

theorem names_roleItems (role : Role) (t : Table) : (roleItems role t).flatMap Item.names =
    structName role t :: (members role t).map Member.identifier ++ [functionName role t] := by
  have hstruct : Item.names
      (.public "struct" (structName role t) [] (memberListTrees (members role t))) =
      structName role t :: (members role t).map Member.identifier :=
    congrArg (structName role t :: ·) (names_members (members role t))
  have himpl : Item.names ⟨[.word "impl", .word (structName role t)], methodTrees (members role t)⟩ =
      [] := rfl
  have hfunction : (functionItem role t).names = [functionName role t] := rfl
  simp [roleItems, hstruct, himpl, hfunction]

theorem names_schemaItems (path : List Tree) (tables : List Table) (script : String) :
    (schemaItems path tables script).flatMap Item.names =
      ["CREATE_TABLE", "tables", "columns", "AllColumns"] ++
        (allColumns tables).map fun p => variant p.1 p.2 := by
  have hvariants : Item.names (.public "enum" "AllColumns" [] (variantNameTrees tables)) =
      "AllColumns" :: (allColumns tables).map fun p => variant p.1 p.2 :=
    congrArg ("AllColumns" :: ·) (names_variants tables)
  rw [← List.append_nil (List.map _ _)]
  exact congrArg (["CREATE_TABLE", "tables", "columns"] ++ · ++ []) hvariants

/-- The items within the modules and implementations of a generated module. -/
def innerItems (tables : List Table) : List Item :=
  items (tableConstantTrees tables) ++ items (tables.flatMap tableColumnsTrees) ++
    (items (enumerationBodyTrees tables) ++ items displayBodyTrees) ++
    (rolePairs tables).flatMap fun p => items (methodTrees (members p.1 p.2))

theorem names_innerItems (tables : List Table) : (innerItems tables).flatMap Item.names =
    tables.map (fun t => screamingSnakeCase t.name) ++ ["ALL"] ++
      tables.map (fun t => fieldIdentifier t.name) ++
      ["ALL", "as_str", "column_name", "alias", "fmt"] ++ (rolePairs tables).map fun _ => "fields" := by
  have hmodules : (items (tables.flatMap tableColumnsTrees)).flatMap Item.names =
      tables.map fun t => fieldIdentifier t.name := by
    rw [items_tableColumns, List.flatMap_map, List.map_eq_flatMap]
    exact List.flatMap_congr fun _ _ => rfl
  have henumeration : (items (enumerationBodyTrees tables) ++ items displayBodyTrees).flatMap
      Item.names = ["ALL", "as_str", "column_name", "alias", "fmt"] := by
    rw [items_enumerationBodyTrees]
    rfl
  have hmethods : ((rolePairs tables).flatMap fun p =>
      items (methodTrees (members p.1 p.2))).flatMap Item.names =
      (rolePairs tables).map fun _ => "fields" := by
    rw [List.flatMap_assoc, List.map_eq_flatMap]
    exact List.flatMap_congr fun _ _ => rfl
  rw [innerItems, List.flatMap_append, List.flatMap_append, List.flatMap_append,
    items_tableConstantTrees, List.flatMap_append, names_constants, hmodules, henumeration, hmethods]
  rfl

/-- Only the modules of columns have items of their own within. -/
theorem inner_innerItems (tables : List Table) : (innerItems tables).flatMap Item.inner =
    tables.flatMap fun t => items (columnConstantTrees t) := by
  have hconstants : (items (tableConstantTrees tables)).flatMap Item.inner = [] := by
    rw [items_tableConstantTrees, List.flatMap_append, List.flatMap_map]
    exact List.append_eq_nil_iff.2 ⟨List.flatMap_eq_nil_iff.2 fun _ _ => rfl, rfl⟩
  have hmodules : (items (tables.flatMap tableColumnsTrees)).flatMap Item.inner =
      tables.flatMap fun t => items (columnConstantTrees t) := by
    rw [items_tableColumns, List.flatMap_map]
    exact List.flatMap_congr fun _ _ => rfl
  have henumeration : (items (enumerationBodyTrees tables) ++ items displayBodyTrees).flatMap
      Item.inner = [] := by
    rw [items_enumerationBodyTrees]
    rfl
  have hmethods : ((rolePairs tables).flatMap fun p =>
      items (methodTrees (members p.1 p.2))).flatMap Item.inner = [] := by
    rw [List.flatMap_assoc, List.flatMap_eq_nil_iff]
    exact fun _ _ => rfl
  rw [innerItems, List.flatMap_append, List.flatMap_append, List.flatMap_append, hconstants, hmodules,
    henumeration, hmethods, List.nil_append, List.append_nil, List.append_nil]

section Module

variable {path : List Tree} (hpath : ∀ t ∈ path, IsPathPart t) (derives : List Tree)
  (tables : List Table) (script : String)

include hpath

theorem inner_moduleTrees :
    (items (moduleTrees path derives tables script)).flatMap Item.inner = innerItems tables := by
  have hschema : (schemaItems path tables script).flatMap Item.inner =
      items (tableConstantTrees tables) ++ (items (tables.flatMap tableColumnsTrees) ++
        (items (enumerationBodyTrees tables) ++ (items displayBodyTrees ++ []))) := rfl
  have hrole : ∀ role t,
      (roleItems role t).flatMap Item.inner = items (methodTrees (members role t)) :=
    fun _ _ => List.append_nil _
  rw [items_moduleTrees hpath, List.flatMap_append, hschema, List.flatMap_assoc]
  simp only [hrole, innerItems, List.append_nil, List.append_assoc]

/-- **The names that a generated module declares.** -/
theorem declaredNames_moduleTrees : declaredNames (moduleTrees path derives tables script) =
    ["CREATE_TABLE", "tables", "columns", "AllColumns"] ++
      (allColumns tables).map (fun p => variant p.1 p.2) ++
      ((rolePairs tables).flatMap fun p =>
        structName p.1 p.2 :: (members p.1 p.2).map Member.identifier ++ [functionName p.1 p.2]) ++
      (innerItems tables).flatMap Item.names ++
      tables.flatMap fun t => t.columns.map fun c => screamingSnakeCase c.name := by
  have hcolumns : ∀ t, (items (columnConstantTrees t)).flatMap Item.names =
      t.columns.map fun c => screamingSnakeCase c.name := fun t => by
    rw [items_columnConstantTrees, names_constants]
  rw [declaredNames, inner_moduleTrees hpath, inner_innerItems, items_moduleTrees hpath,
    List.flatMap_append, names_schemaItems, List.flatMap_assoc, List.flatMap_assoc]
  simp only [names_roleItems, hcolumns]

end Module

/-! ## Legal names -/

/-- All names of a schema are ASCII. -/
def AsciiNames (tables : List Table) : Prop :=
  ∀ t ∈ tables, IsAsciiName t.name ∧ ∀ c ∈ t.columns, IsAsciiName c.name

instance (tables : List Table) : Decidable (AsciiNames tables) :=
  inferInstanceAs (Decidable (∀ t ∈ tables, _ ∧ _))

theorem mem_columns_of_mem_members {role : Role} {t : Table} {m : Member} (h : m ∈ members role t) :
    m.column ∈ t.columns :=
  (columns_members_sublist role t).subset (List.mem_map.2 ⟨m, h, rfl⟩)

/-- **All declared names are legal exactly if every name of the schema holds a letter or a digit.** -/
theorem legal_declaredNames_iff {path : List Tree} (hpath : ∀ t ∈ path, IsPathPart t)
    (derives : List Tree) {tables : List Table} (script : String) (hascii : AsciiNames tables) :
    (∀ name ∈ declaredNames (moduleTrees path derives tables script), isLegalName name = true) ↔
      ∀ t ∈ tables, HasWord t.name ∧ ∀ c ∈ t.columns, HasWord c.name := by
  rw [declaredNames_moduleTrees hpath, names_innerItems]
  simp only [List.forall_mem_append, List.forall_mem_map, List.mem_flatMap]
  constructor
  · rintro ⟨⟨-, ⟨⟨⟨⟨htables, -⟩, -⟩, -⟩, -⟩⟩, hcolumns⟩ t ht
    have hcolumn : ∀ c ∈ t.columns, isLegalName (screamingSnakeCase c.name) = true := fun c hc =>
      hcolumns _ ⟨t, ht, List.mem_map.2 ⟨c, hc, rfl⟩⟩
    exact ⟨(isLegalName_screaming_iff (hascii t ht).1).1 (htables t ht), fun c hc =>
      (isLegalName_screaming_iff ((hascii t ht).2 c hc)).1 (hcolumn c hc)⟩
  · intro h
    have hvariants : ∀ p ∈ allColumns tables, isLegalName (variant p.1 p.2) = true := by
      intro p hp
      obtain ⟨t, ht, hmem⟩ := List.mem_flatMap.1 hp
      obtain ⟨c, hc, rfl⟩ := List.mem_map.1 hmem
      exact isLegalName_variant (hascii t ht).1 ((hascii t ht).2 c hc)
    have hroles : ∀ name, (∃ p ∈ rolePairs tables, name ∈ structName p.1 p.2 ::
        (members p.1 p.2).map Member.identifier ++ [functionName p.1 p.2]) →
        isLegalName name = true := by
      rintro name ⟨⟨role, t⟩, hp, hname⟩
      have ht := mem_tables_of_mem_rolePairs hp
      rcases List.mem_append.1 hname with hname | hname
      · rcases List.mem_cons.1 hname with rfl | hname
        · exact isLegalName_structName role (hascii t ht).1
        · obtain ⟨m, hm, rfl⟩ := List.mem_map.1 hname
          have hc := mem_columns_of_mem_members hm
          exact (isLegalName_field_iff ((hascii t ht).2 _ hc)).2 ((h t ht).2 _ hc)
      · rw [List.mem_singleton.1 hname]
        exact isLegalName_functionName role (hascii t ht).1
    have hconstants : ∀ name, (∃ t ∈ tables, name ∈ t.columns.map fun c =>
        screamingSnakeCase c.name) → isLegalName name = true := by
      rintro name ⟨t, ht, hname⟩
      obtain ⟨c, hc, rfl⟩ := List.mem_map.1 hname
      exact (isLegalName_screaming_iff ((hascii t ht).2 c hc)).2 ((h t ht).2 c hc)
    have hfields : isLegalName "fields" = true := by decide
    exact ⟨⟨⟨⟨List.all_eq_true.1 (by decide), hvariants⟩, hroles⟩,
      ⟨⟨⟨⟨fun t ht => (isLegalName_screaming_iff (hascii t ht).1).2 (h t ht).1,
        List.all_eq_true.1 (by decide)⟩,
        fun t ht => (isLegalName_field_iff (hascii t ht).1).2 (h t ht).1⟩,
        List.all_eq_true.1 (by decide)⟩, fun _ _ => hfields⟩⟩, hconstants⟩

/-- **The names that a generated module declares are legal exactly if every name of the schema holds a
letter or a digit**, where the names are ASCII. The names are read off the code of the module, and off
its text where comments end with their lines. -/
theorem declaredNames_legal_iff {tables : List Table} {script : String}
    {options : GeneratorOptions} {m : AccessModule} (h : generate tables script options = .ok m)
    (hascii : AsciiNames tables) :
    ∃ root, (moduleBlock tables script options).trees? = some root ∧
      ((∀ t ∈ tables, KeepsToComments t.name) → readSource m.render = some root) ∧
      ((∀ name ∈ declaredNames root, isLegalName name = true) ↔
        ∀ t ∈ tables, HasWord t.name ∧ ∀ c ∈ t.columns, HasWord c.name) := by
  obtain ⟨path, derives, hpath, hblock, -, hread⟩ := exists_moduleTrees h
  exact ⟨_, hblock, hread, legal_declaredNames_iff hpath derives script hascii⟩

/-- A table whose names begin with a digit or are keywords. -/
def keywordTable : Table :=
  ⟨"2nd type", [.declare "self" .integer true false false, .declare "type" .text false false false]⟩

theorem declaredNames_legal_of_keywordTable :
    ∃ m root, generate [keywordTable] "" {} = .ok m ∧ (moduleBlock [keywordTable] "" {}).trees? =
      some root ∧ ∀ name ∈ declaredNames root, isLegalName name = true := by
  have h : generate [keywordTable] "" {} = .ok (ofTables [keywordTable] "" {}) :=
    generate_eq_ok_iff.2 ⟨by decide, by decide, rfl⟩
  have hascii : AsciiNames [keywordTable] := by decide
  have hwords : ∀ t ∈ [keywordTable], HasWord t.name ∧ ∀ c ∈ t.columns, HasWord c.name := by
    decide
  obtain ⟨root, hblock, -, hlegal⟩ := declaredNames_legal_iff h hascii
  exact ⟨_, root, h, hblock, hlegal.2 hwords⟩

/-- A script that defines a column whose name is a separator. -/
def separatorScript : String :=
  "CREATE TABLE t (\"-\" TEXT);"

/-- The table that is extracted from it. -/
def separatorTable : Table :=
  ⟨"t", [⟨"-", .text, false, false, true⟩]⟩

theorem declaredNames_lone_underscore :
    extractTables separatorScript .live = .ok [separatorTable] ∧ AsciiNames [separatorTable] ∧
      (∀ t ∈ [separatorTable], t.name ≠ "" ∧ ∀ c ∈ t.columns, c.name ≠ "") ∧
      ∃ m root, generate [separatorTable] separatorScript {} = .ok m ∧
        readSource m.render = some root ∧ "_" ∈ declaredNames root ∧ isLegalName "_" = false := by
  have h : generate [separatorTable] separatorScript {} =
      .ok (ofTables [separatorTable] separatorScript {}) :=
    generate_eq_ok_iff.2 ⟨by decide, by decide, rfl⟩
  have hcomments : ∀ t ∈ [separatorTable], KeepsToComments t.name := by
    rw [List.forall_mem_singleton]
    exact (onOneLine_ofList (by decide)).keepsToComments
  obtain ⟨path, derives, hpath, -, -, hread⟩ := exists_moduleTrees h
  refine ⟨Catalog.extract_of_run String.toList_ofList (by decide +kernel) (by decide),
    by decide +kernel, by decide +kernel, _, _, h, hread hcomments, ?_, by decide⟩
  have hname : screamingSnakeCase "-" = "_" := by decide
  rw [declaredNames_moduleTrees hpath]
  refine List.mem_append_right _ ?_
  rw [← hname]
  exact List.mem_singleton_self _

end Tablewright.AccessModule
