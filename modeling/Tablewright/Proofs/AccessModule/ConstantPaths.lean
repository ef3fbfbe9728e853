import Tablewright.Proofs.AccessModule.ModuleItems

/-!
# Paths in generated modules

Generated code refers to the names of tables and columns by the paths of constants. All such paths
of a module are those of the columns, in the method that answers by the column, and of the tables,
one in each of their functions (`constantPaths_moduleTrees`). Every other path has another first
name, wherever names of the schema stand in it.
-/

namespace Tablewright.AccessModule

open Naming

/-! ## Paths -/

/-- A path that leads to the name of a table or of a column. -/
def constantPath : List String → List (List String)
  | first :: next :: more =>
    if first = "tables" ∨ first = "columns" then [first :: next :: more] else []
  | _ => []

/-- The paths of such constants among tokens, where `path` stands in front of the first token, and
so many colons behind it. -/
def constantPathsFrom (path : List String) (colons : Nat) : List Token → List (List String)
  | [] => constantPath path
  | .word name :: rest =>
    if colons = 2 then constantPathsFrom (path ++ [name]) 0 rest
    else constantPath path ++ constantPathsFrom [name] 0 rest
  | .mark c :: rest =>
    if c = ':' then constantPathsFrom path (colons + 1) rest
    else constantPath path ++ constantPathsFrom [] 0 rest
  | _ :: rest => constantPath path ++ constantPathsFrom [] 0 rest

/-- The paths of constants that hold the names of tables and columns. -/
def constantPaths (ts : List Token) : List (List String) :=
  constantPathsFrom [] 0 ts

/-- The constant of a table. -/
def tablePathNames (t : Table) : List String :=
  ["tables", screamingSnakeCase t.name]

/-- The constant of a column. -/
def columnPathNames (p : Table × Column) : List String :=
  ["columns", fieldIdentifier p.1.name, screamingSnakeCase p.2.name]

/-! ## The schema section -/

theorem scanned_constant (name value : String) :
    Scanned constantPaths (flatten (constantTrees name value)) [] :=
  fun _ => rfl

theorem scanned_constants {α : Type} (l : List α) (name value : α → String) :
    Scanned constantPaths (flatten (l.flatMap fun a => constantTrees (name a) (value a))) [] := by
  rw [flatten_flatMap]
  exact .flatMap_nil fun a _ => scanned_constant (name a) (value a)

theorem scanned_closing (b : Bracket) : Scanned constantPaths [.closing b] [] :=
  fun _ => rfl

/-- Trees with a comma between any two, up to the bracket that closes their list. -/
theorem scanned_commaTrees {α : Type} {l : List α} {f : α → Tree}
    (hcomma : ∀ a, Scanned constantPaths ((f a).tokens ++ ([.mark ','] : List Token)) [])
    (hend : ∀ a, Scanned constantPaths ((f a).tokens ++ ([.closing .square] : List Token)) []) :
    Scanned constantPaths
      (flatten (commaTrees (l.map fun a => [f a])) ++ ([.closing .square] : List Token)) [] := by
  induction l with
  | nil => exact scanned_closing .square
  | cons a l ih =>
    cases l with
    | nil => simpa [commaTrees] using hend a
    | cons a' l =>
      have htrees : commaTrees ((a :: a' :: l).map fun a => [f a]) =
          f a :: .mark ',' :: commaTrees ((a' :: l).map fun a => [f a]) := by
        simp [commaTrees, List.intercalate_cons_cons]
      rw [htrees]
      simpa [Tree.tokens] using (hcomma a).append ih

theorem scanned_tableConstantTrees (tables : List Table) :
    Scanned constantPaths (flatten (tableConstantTrees tables)) [] := by
  have hopen : Scanned constantPaths [.word "pub", .word "const", .word "ALL", .mark ':', .mark '&',
      .opening .square, .mark '&', .word "str", .closing .square, .mark '=', .mark '&',
      .opening .square] [] := fun _ => rfl
  have hend : Scanned constantPaths [.mark ';'] [] := fun _ => rfl
  have hnames := scanned_commaTrees (l := tables) (f := fun t => .word (screamingSnakeCase t.name))
    (fun _ _ => rfl) (fun _ _ => rfl)
  have hall : Scanned constantPaths (flatten (allTablesTrees tables)) [] := by
    simpa [allTablesTrees, Tree.tokens] using (hopen.append hnames).append hend
  rw [tableConstantTrees, flatten_append]
  exact (scanned_constants tables _ _).append hall

theorem scanned_tableColumns (tables : List Table) :
    Scanned constantPaths (flatten (tables.flatMap tableColumnsTrees)) [] := by
  rw [flatten_flatMap]
  refine .flatMap_nil fun t _ => ?_
  have hopen : Scanned constantPaths [.word "pub", .word "mod", .word (fieldIdentifier t.name),
      .opening .curly] [] := fun _ => rfl
  have hconstants : Scanned constantPaths (flatten (columnConstantTrees t)) [] :=
    scanned_constants t.columns _ _
  simpa [tableColumnsTrees, Tree.tokens] using (hopen.append hconstants).append (scanned_closing _)

/-- A list with an entry for every column, each up to its comma. -/
theorem scanned_perColumn {tables : List Table} {trees : Table × Column → List Tree}
    {found : Table × Column → List (List String)}
    (h : ∀ p, Scanned constantPaths (flatten (trees p)) (found p)) :
    Scanned constantPaths (flatten ((allColumns tables).flatMap trees))
      ((allColumns tables).flatMap found) := by
  rw [flatten_flatMap]
  exact .flatMap fun p _ => h p

theorem scanned_byVariant (tables : List Table) (name : String)
    {answer : Table × Column → List Tree} {found : Table × Column → List (List String)}
    (h : ∀ p, Scanned constantPaths (flatten (answer p) ++ [.mark ',']) (found p)) :
    Scanned constantPaths (flatten (byVariantTrees tables name answer))
      ((allColumns tables).flatMap found) := by
  have hopen : Scanned constantPaths [.word "pub", .word "fn", .word name, .opening .round,
      .word "self", .closing .round, .mark '-', .mark '>', .mark '&', .mark '\'', .word "static",
      .word "str", .opening .curly, .word "match", .word "self", .opening .curly] [] := fun _ => rfl
  have hend : Scanned constantPaths [.closing .curly, .closing .curly] [] := fun _ => rfl
  have harms : Scanned constantPaths (flatten (armTrees tables answer))
      ((allColumns tables).flatMap found) := by
    refine scanned_perColumn fun p => ?_
    have hpattern : Scanned constantPaths [.word "AllColumns", .mark ':', .mark ':',
        .word (variant p.1 p.2), .mark '=', .mark '>'] [] := fun _ => rfl
    simpa [variantTrees, Tree.tokens] using hpattern.append (h p)
  simpa [byVariantTrees, Tree.tokens] using (hopen.append harms).append hend

theorem scanned_enumerationBody (tables : List Table) :
    Scanned constantPaths (flatten (enumerationBodyTrees tables))
      ((allColumns tables).map columnPathNames) := by
  have hopen : Scanned constantPaths [.word "pub", .word "const", .word "ALL", .mark ':', .mark '&',
      .mark '\'', .word "static", .opening .square, .word "AllColumns", .closing .square, .mark '=',
      .mark '&', .opening .square] [] := fun _ => rfl
  have hend : Scanned constantPaths [.closing .square, .mark ';'] [] := fun _ => rfl
  have hlisted : Scanned constantPaths
      (flatten ((allColumns tables).flatMap fun p => variantTrees p ++ [.mark ','])) [] := by
    rw [flatten_flatMap]
    exact .flatMap_nil fun p _ _ => rfl
  have hlist : Scanned constantPaths (flatten (variantListTrees tables)) [] := by
    simpa [variantListTrees, Tree.tokens] using (hopen.append hlisted).append hend
  have hasStr : Scanned constantPaths (flatten (byVariantTrees tables "as_str" columnTrees))
      ((allColumns tables).flatMap fun p => [columnPathNames p]) :=
    scanned_byVariant tables "as_str" fun _ _ => rfl
  have hname : Scanned constantPaths
      (flatten (byVariantTrees tables "column_name" fun p => [.text p.2.name]))
      ((allColumns tables).flatMap fun _ => []) :=
    scanned_byVariant tables "column_name" fun _ _ => rfl
  rw [List.flatMap_eq_nil_iff.2 fun _ _ => rfl] at hname
  have halias : Scanned constantPaths (flatten aliasTrees) [] := fun _ => rfl
  simpa [enumerationBodyTrees, List.map_eq_flatMap] using
    ((hlist.append hasStr).append hname).append halias

/-! ## Tables -/

theorem scanned_memberList (ms : List Member) :
    Scanned constantPaths (flatten (memberListTrees ms)) [] := by
  rw [memberListTrees, flatten_flatMap]
  refine .flatMap_nil fun m _ => ?_
  have hopen : Scanned constantPaths [.word "pub", .word m.identifier, .mark ':', .word "Option",
      .mark '<'] [] := fun _ => rfl
  have hscalar : Scanned constantPaths
      (flatten (scalarTrees m.type) ++ ([.mark '>', .mark ','] : List Token)) [] := by
    cases m.type <;> exact fun _ => rfl
  rw [memberTrees, typeTrees]
  cases m.presence.isOptional with
  | false => cases m.type <;> exact fun _ => rfl
  | true => simpa [Tree.tokens] using hopen.append hscalar

theorem scanned_owned (m : Member) {value : List Tree}
    (h : value = placeTrees m ∨ value = [.word "value"]) :
    Scanned constantPaths (flatten (ownedTrees m value) ++ ([.closing .round] : List Token)) [] := by
  rw [ownedTrees]
  rcases h with rfl | rfl <;> split <;> exact fun _ => rfl

section Values

variable (m : Member) {value : List Tree}
  (h : Scanned constantPaths (flatten value ++ ([.closing .round] : List Token)) [])
include h

theorem scanned_pair : Scanned constantPaths (pairTree m value).tokens [] := by
  have hopen : Scanned constantPaths [.opening .round, .text m.column.name, .mark ',', .word "rt",
      .mark ':', .mark ':', .word "Value", .mark ':', .mark ':', .word "from", .opening .round] [] :=
    fun _ => rfl
  simpa [pairTree, Tree.tokens] using (hopen.append h).append (scanned_closing .round)

theorem scanned_add : Scanned constantPaths (flatten (addTrees m value)) [] := by
  have hopen : Scanned constantPaths [.word "fields", .mark '.', .word "push", .opening .round] [] :=
    fun _ => rfl
  have hend : Scanned constantPaths [.closing .round, .mark ';'] [] := fun _ => rfl
  simpa [addTrees, Tree.tokens] using (hopen.append (scanned_pair m h)).append hend

end Values

theorem scanned_push (m : Member) : Scanned constantPaths (flatten (pushTrees m)) [] := by
  cases hpresence : m.presence with
  | required nullable =>
    simp only [pushTrees, hpresence]
    exact scanned_add m (scanned_owned m (.inl rfl))
  | omittable =>
    have hadd := scanned_add m (scanned_owned m (.inr rfl))
    have hopen : Scanned constantPaths (flatten (([.word "if", .word "let", .word "Some",
        .group .round [.word "value"], .mark '='] : List Tree) ++
        (if m.type.isCopy then placeTrees m else .mark '&' :: placeTrees m)) ++
        [.opening .curly]) [] := by
      split <;> exact fun _ => rfl
    simp only [pushTrees, hpresence, flatten_append]
    simpa [Tree.tokens] using (hopen.append hadd).append (scanned_closing .curly)

theorem scanned_fields (ms : List Member) :
    Scanned constantPaths (flatten (fieldsTrees ms) ++ [.closing .curly]) [] := by
  rw [fieldsTrees]
  split
  · have hopen : Scanned constantPaths [.word "vec", .mark '!', .opening .square] [] := fun _ => rfl
    have hend : Scanned constantPaths [.closing .square, .closing .curly] [] := fun _ => rfl
    have hpairs : Scanned constantPaths (flatten
        (ms.flatMap fun m => [pairTree m (ownedTrees m (placeTrees m))] ++
          ([.mark ','] : List Tree))) [] := by
      rw [flatten_flatMap]
      refine .flatMap_nil fun m _ => ?_
      have hcomma : Scanned constantPaths [.mark ','] [] := fun _ => rfl
      simpa [Tree.tokens] using (scanned_pair m (scanned_owned m (.inl rfl))).append hcomma
    simpa [Tree.tokens] using (hopen.append hpairs).append hend
  · have hnew : Scanned constantPaths [.word "let", .word "mut", .word "fields", .mark '=', .word "rt",
        .mark ':', .mark ':', .word "Fields", .mark ':', .mark ':', .word "new", .opening .round,
        .closing .round, .mark ';'] [] := fun _ => rfl
    have hend : Scanned constantPaths [.word "fields", .closing .curly] [] := fun _ => rfl
    have hpushes : Scanned constantPaths (flatten (ms.flatMap pushTrees)) [] := by
      rw [flatten_flatMap]
      exact .flatMap_nil fun m _ => scanned_push m
    simpa [Tree.tokens] using (hnew.append hpushes).append hend

theorem scanned_methods (ms : List Member) :
    Scanned constantPaths (flatten (methodTrees ms)) [] := by
  have hopen : Scanned constantPaths [.word "pub", .word "fn", .word "fields", .opening .round,
      .mark '&', .word "self", .closing .round, .mark '-', .mark '>', .word "rt", .mark ':',
      .mark ':', .word "Fields", .opening .curly] [] := fun _ => rfl
  simpa [methodTrees, Tree.tokens] using hopen.append (scanned_fields ms)

theorem scanned_functionBody (role : Role) (t : Table) :
    Scanned constantPaths (flatten (functionBody role t)) [tablePathNames t] := by
  have htables : structName role t ≠ "tables" := structName_ne (by rintro ⟨⟩ <;> decide) role t
  have hcolumns : structName role t ≠ "columns" := structName_ne (by rintro ⟨⟩ <;> decide) role t
  have hrows : Scanned constantPaths (flatten (rowsTrees role t)) [] := fun _ => by
    simp [rowsTrees, Tree.tokens, constantPaths, constantPathsFrom, constantPath, htables, hcolumns]
  have hopen : Scanned constantPaths (([.word "let", .opening .round, .word "sql", .mark ',',
      .word "params", .closing .round, .mark '=', .word "rt", .mark ':', .mark ':',
      .word "batch_statement", .opening .round, .word "rt", .mark ':', .mark ':', .word "BatchVerb",
      .mark ':', .mark ':', .word role.typePrefix, .mark ','] : List Token) ++
      flatten (tablePathTrees t) ++ ([.mark ',', .mark '&', .opening .square] : List Token))
      [tablePathNames t] := fun _ => rfl
  have hcolumns : Scanned constantPaths
      (flatten (commaTrees ((columnNames role t).map fun c => [.text c])) ++
        ([.closing .square] : List Token)) [] :=
    scanned_commaTrees (fun _ _ => rfl) (fun _ _ => rfl)
  have hend : Scanned constantPaths [.mark ',', .mark '&', .word "rows", .mark ',', .closing .round,
      .mark '?', .mark ';'] [] := fun _ => rfl
  have hbatch : Scanned constantPaths (flatten (batchTrees role t)) [tablePathNames t] := by
    simpa [batchTrees, Tree.tokens] using (hopen.append hcolumns).append hend
  have hquery : Scanned constantPaths (flatten (([.word "db", .mark '.', .word "query",
      .group .round [.mark '&', .word "sql", .mark ',', .mark '&', .word "params"], .mark '?',
      .mark ';'] : List Tree) ++ okTrees)) [] := fun _ => rfl
  have hwrite : Scanned constantPaths (flatten (writeBodyTrees role t)) [tablePathNames t] := by
    simpa [writeBodyTrees] using (hrows.append hbatch).append hquery
  cases role with
  | delete => exact fun _ => rfl
  | insert => exact hwrite
  | replace => exact hwrite

/-! ## The module -/

theorem constantPaths_item {i : Item} {k : String} {rest : List Tree} {found : List (List String)}
    (hi : i.head = .word k :: rest) (hk : k ≠ "use")
    (hhead : Scanned constantPaths (flatten i.head ++ [.opening .curly]) [])
    (hbody : Scanned constantPaths (flatten i.body) found) : constantPaths i.tokens = found :=
  (Scanned.item hi hk hhead hbody (scanned_closing .curly)).find_eq rfl

theorem constantPaths_schemaItems (path : List Tree) (tables : List Table) (script : String) :
    (schemaItems path tables script).flatMap (fun i => constantPaths i.tokens) =
      (allColumns tables).map columnPathNames := by
  have huse : constantPaths (useItem path).tokens = [] := rfl
  have hscript : constantPaths (constantItem "CREATE_TABLE" script).tokens = [] := rfl
  have htables : constantPaths
      (Item.public "mod" "tables" [] (tableConstantTrees tables)).tokens = [] :=
    constantPaths_item rfl (by decide) (fun _ => rfl) (scanned_tableConstantTrees tables)
  have hcolumns : constantPaths
      (Item.public "mod" "columns" [] (tables.flatMap tableColumnsTrees)).tokens = [] :=
    constantPaths_item rfl (by decide) (fun _ => rfl) (scanned_tableColumns tables)
  have hvariants : constantPaths
      (Item.public "enum" "AllColumns" [] (variantNameTrees tables)).tokens = [] := by
    refine constantPaths_item rfl (by decide) (fun _ => rfl) ?_
    rw [variantNameTrees, Item.public, flatten_flatMap]
    exact .flatMap_nil fun p _ _ => rfl
  have hitems : constantPaths
      (Item.tokens ⟨[.word "impl", .word "AllColumns"], enumerationBodyTrees tables⟩) =
      (allColumns tables).map columnPathNames :=
    constantPaths_item rfl (by decide) (fun _ => rfl) (scanned_enumerationBody tables)
  have hdisplay : constantPaths (Item.tokens ⟨[.word "impl", .word "std", .mark ':', .mark ':',
      .word "fmt", .mark ':', .mark ':', .word "Display", .word "for", .word "AllColumns"],
      displayBodyTrees⟩) = [] := rfl
  simp [schemaItems, huse, hscript, htables, hcolumns, hvariants, hitems, hdisplay]

theorem constantPaths_roleItems (role : Role) (t : Table) :
    (roleItems role t).flatMap (fun i => constantPaths i.tokens) = [tablePathNames t] := by
  have hstruct : constantPaths
      (Item.public "struct" (structName role t) [] (memberListTrees (members role t))).tokens = [] :=
    constantPaths_item rfl (by decide) (fun _ => rfl) (scanned_memberList _)
  have hmethods : constantPaths
      (Item.tokens ⟨[.word "impl", .word (structName role t)], methodTrees (members role t)⟩) = [] :=
    constantPaths_item rfl (by decide) (fun _ => rfl) (scanned_methods _)
  have hfunction : constantPaths (functionItem role t).tokens = [tablePathNames t] := by
    refine constantPaths_item rfl (by decide) ?_ (scanned_functionBody role t)
    cases role <;> exact fun _ => rfl
  simp [roleItems, hstruct, hmethods, hfunction]

/-- **The paths of constants that a generated module uses**: one for each column, and for each
table one in each of its functions. -/
theorem constantPaths_moduleTrees {path : List Tree} (hpath : ∀ t ∈ path, IsPathPart t)
    (derives : List Tree) (tables : List Table) (script : String) :
    foundIn constantPaths (moduleTrees path derives tables script) =
      (allColumns tables).map columnPathNames ++
        (rolePairs tables).map fun p => tablePathNames p.2 := by
  rw [foundIn, items_moduleTrees hpath, List.flatMap_append, constantPaths_schemaItems,
    List.flatMap_assoc, List.map_eq_flatMap (l := rolePairs tables)]
  simp only [constantPaths_roleItems]

end Tablewright.AccessModule
