import Tablewright.Proofs.AccessModule.ItemReading
import Tablewright.Proofs.AccessModule.ModuleReading
import Tablewright.Proofs.Naming.Collisions

/-!
# The items of generated modules

The items of a generated module are those of its schema section, then three for every role of every
table: a struct, its methods and the function (`items_moduleTrees`). So public items are looked up
among few: a module of the schema section (`named_tables`, `named_columns`), its enumeration, or a
function (`named_function`).
-/

namespace Tablewright.AccessModule

open Naming

/-! ## The schema section -/

/-- A public string constant. -/
def constantItem (name value : String) : Item :=
  .public "const" name [.mark ':', .mark '&', .word "str", .mark '=', .text value] []

theorem itemized_constant (name value : String) :
    Itemized (constantTrees name value) [constantItem name value] :=
  fun _ => rfl

/-- The list of the constants of all tables. -/
def allTablesItem (tables : List Table) : Item :=
  .public "const" "ALL" [.mark ':', .mark '&', .group .square [.mark '&', .word "str"], .mark '=',
    .mark '&', .group .square (commaTrees (tables.map fun t => [.word (screamingSnakeCase t.name)]))]
    []

theorem items_tableConstantTrees (tables : List Table) :
    items (tableConstantTrees tables) =
      tables.map (fun t => constantItem (screamingSnakeCase t.name) t.name) ++
        [allTablesItem tables] := by
  have hall : Itemized (allTablesTrees tables) [allTablesItem tables] := fun _ => rfl
  exact ((Itemized.map fun t _ => itemized_constant _ t.name).append hall).items_eq

theorem items_columnConstantTrees (t : Table) : items (columnConstantTrees t) =
    t.columns.map fun c => constantItem (screamingSnakeCase c.name) (t.qualified c) :=
  (Itemized.map fun c _ => itemized_constant _ (t.qualified c)).items_eq

theorem items_tableColumns (tables : List Table) : items (tables.flatMap tableColumnsTrees) =
    tables.map fun t => .public "mod" (fieldIdentifier t.name) [] (columnConstantTrees t) := by
  have htable : ∀ t, Itemized (tableColumnsTrees t)
      [.public "mod" (fieldIdentifier t.name) [] (columnConstantTrees t)] := fun _ _ => rfl
  exact (Itemized.map fun t _ => htable t).items_eq

/-- The import of the runtime library. -/
def useItem (path : List Tree) : Item :=
  ⟨.word "use" :: (path ++ [.word "as", .word "rt"]), []⟩

theorem itemized_use {path : List Tree} (h : ∀ t ∈ path, IsPathPart t) :
    Itemized (useTrees path) [useItem path] := by
  have hpath : ∀ head rest, itemsFrom head (path ++ .word "as" :: .word "rt" :: .mark ';' :: rest) =
      ⟨head ++ path ++ [.word "as", .word "rt"], []⟩ :: itemsFrom [] rest := by
    induction path with
    | nil => simp [itemsFrom]
    | cons t path ih =>
      obtain ⟨ht, hpath⟩ := List.forall_mem_cons.1 h
      intro head rest
      cases ht <;> simp [itemsFrom, ih hpath]
  intro rest
  rw [useTrees, List.cons_append, List.append_assoc]
  exact hpath [.word "use"] rest

/-- The list of all variants. -/
def variantListItem (tables : List Table) : Item :=
  .public "const" "ALL" [.mark ':', .mark '&', .mark '\'', .word "static",
    .group .square [.word "AllColumns"], .mark '=', .mark '&',
    .group .square ((allColumns tables).flatMap fun p => variantTrees p ++ [.mark ','])] []

/-- The parameters and the result of a method that answers by the variant. -/
def byVariantParameters : List Tree :=
  [.group .round [.word "self"], .mark '-', .mark '>', .mark '&', .mark '\'', .word "static",
    .word "str"]

/-- A method of the enumeration that answers by the variant. -/
def byVariantItem (tables : List Table) (name : String) (answer : Table × Column → List Tree) :
    Item :=
  .public "fn" name byVariantParameters
    [.word "match", .word "self", .group .curly (armTrees tables answer)]

/-- The method that puts an alias in place of the table. -/
def aliasItem : Item :=
  .public "fn" "alias" [.group .round [.word "self", .mark ',', .word "table_alias", .mark ':',
      .mark '&', .word "str"], .mark '-', .mark '>', .word "String"]
    [.word "rt", .mark ':', .mark ':', .word "alias", .group .round
      [.word "table_alias", .mark ',', .word "self", .mark '.', .word "as_str", .group .round []]]

/-- The items of the enumeration. -/
theorem items_enumerationBodyTrees (tables : List Table) : items (enumerationBodyTrees tables) =
    [variantListItem tables, byVariantItem tables "as_str" columnTrees,
      byVariantItem tables "column_name" fun p => [.text p.2.name], aliasItem] := by
  have hlist : Itemized (variantListTrees tables) [variantListItem tables] := fun _ => rfl
  have hanswer : ∀ name answer, Itemized (byVariantTrees tables name answer)
      [byVariantItem tables name answer] := fun _ _ _ => rfl
  have halias : Itemized aliasTrees [aliasItem] := fun _ => rfl
  exact (((hlist.append (hanswer _ _)).append (hanswer _ _)).append halias).items_eq

/-- The items of the schema section. -/
def schemaItems (path : List Tree) (tables : List Table) (script : String) : List Item :=
  [useItem path, constantItem "CREATE_TABLE" script,
    .public "mod" "tables" [] (tableConstantTrees tables),
    .public "mod" "columns" [] (tables.flatMap tableColumnsTrees),
    .public "enum" "AllColumns" [] (variantNameTrees tables),
    ⟨[.word "impl", .word "AllColumns"], enumerationBodyTrees tables⟩,
    ⟨[.word "impl", .word "std", .mark ':', .mark ':', .word "fmt", .mark ':', .mark ':',
      .word "Display", .word "for", .word "AllColumns"], displayBodyTrees⟩]

theorem itemized_schemaTrees {path : List Tree} (h : ∀ t ∈ path, IsPathPart t)
    (tables : List Table) (script : String) :
    Itemized (schemaTrees path tables script) (schemaItems path tables script) :=
  (itemized_use h).append fun _ => rfl

/-! ## Table sections -/

/-- The parameters and the result of the function of a role. -/
def functionParameters (role : Role) (t : Table) : List Tree :=
  match role with
  | .delete => parameterTrees "filter" [.word (structName .delete t)]
  | role => parameterTrees "rows" [.group .square [.word (structName role t)]]

/-- What the function of a role does. -/
def functionBody (role : Role) (t : Table) : List Tree :=
  match role with
  | .delete => deleteBodyTrees t
  | role => writeBodyTrees role t

/-- The function of a role. -/
def functionItem (role : Role) (t : Table) : Item :=
  .public "fn" (functionName role t) (functionParameters role t) (functionBody role t)

/-- The items of a role. -/
def roleItems (role : Role) (t : Table) : List Item :=
  [.public "struct" (structName role t) [] (memberListTrees (members role t)),
    ⟨[.word "impl", .word (structName role t)], methodTrees (members role t)⟩, functionItem role t]

theorem itemized_structTrees (derives : List Tree) (role : Role) (t : Table) :
    Itemized (structTrees derives role t)
      [.public "struct" (structName role t) [] (memberListTrees (members role t)),
        ⟨[.word "impl", .word (structName role t)], methodTrees (members role t)⟩] :=
  fun _ => rfl

theorem itemized_signatureTrees (role : Role) (t : Table) (parameter : String)
    (type body : List Tree) :
    Itemized (signatureTrees role t parameter type ++ [.group .curly body])
      [.public "fn" (functionName role t) (parameterTrees parameter type) body] := by
  intro rest
  simp [signatureTrees, parameterTrees, items, itemsFrom, Item.public]

theorem itemized_tableTrees (derives : List Tree) (t : Table) :
    Itemized (tableTrees derives t) (roles.flatMap fun role => roleItems role t) := by
  have hstruct := itemized_structTrees derives
  have hinsert : Itemized (writeTrees .insert t) [functionItem .insert t] :=
    itemized_signatureTrees _ _ _ _ _
  have hreplace : Itemized (writeTrees .replace t) [functionItem .replace t] :=
    itemized_signatureTrees _ _ _ _ _
  have hdelete : Itemized (deleteTrees t) [functionItem .delete t] := itemized_signatureTrees _ _ _ _ _
  rw [tableTrees]
  simpa [roles, roleItems] using (hstruct .insert t).append (hinsert.append
    ((hstruct .replace t).append (hreplace.append ((hstruct .delete t).append hdelete))))

/-! ## The module -/

/-- All tables with all roles. -/
def rolePairs (tables : List Table) : List (Role × Table) :=
  tables.flatMap fun t => roles.map fun role => (role, t)

theorem mem_rolePairs {tables : List Table} {t : Table} (role : Role) (ht : t ∈ tables) :
    (role, t) ∈ rolePairs tables :=
  List.mem_flatMap.2 ⟨t, ht, List.mem_map.2 ⟨role, by cases role <;> decide, rfl⟩⟩

theorem mem_tables_of_mem_rolePairs {tables : List Table} {p : Role × Table}
    (h : p ∈ rolePairs tables) : p.2 ∈ tables := by
  obtain ⟨t, ht, hmem⟩ := List.mem_flatMap.1 h
  obtain ⟨role, -, rfl⟩ := List.mem_map.1 hmem
  exact ht

theorem map_rolePairs {α : Type} (f : Role → Table → α) (tables : List Table) :
    (rolePairs tables).map (fun p => f p.1 p.2) =
      tables.flatMap fun t => roles.map fun role => f role t := by
  simp [rolePairs, List.map_flatMap, Function.comp_def]

section Roles

variable {α : Type} {find? : Item → Option α} {tables : List Table}

theorem filterMap_roleItems_eq_nil (h : ∀ role t, (roleItems role t).filterMap find? = []) :
    ((rolePairs tables).flatMap fun p => roleItems p.1 p.2).filterMap find? = [] := by
  rw [List.filterMap_flatMap, List.flatMap_eq_nil_iff]
  exact fun p _ => h p.1 p.2

/-- Where one item of a role is found by a key, and keys are distinct, it is all that is found. -/
theorem filterMap_roleItems {key : Role → Table → String} {found : Role → Table → α} {role : Role}
    {t : Table} (h : ∀ r u, (roleItems r u).filterMap find? =
      if key r u = key role t then [found r u] else [])
    (hkeys : (tables.flatMap fun t => roles.map fun role => key role t).Nodup) (ht : t ∈ tables) :
    ((rolePairs tables).flatMap fun p => roleItems p.1 p.2).filterMap find? = [found role t] := by
  rw [← map_rolePairs] at hkeys
  rw [List.filterMap_flatMap]
  simp only [h]
  exact flatMap_key hkeys (fun p => found p.1 p.2) (mem_rolePairs role ht)

end Roles

theorem structName_ne {name : String}
    (h : ∀ role : Role, role.typePrefix.toList.head? ≠ name.toList.head?) (role : Role) (t : Table) :
    structName role t ≠ name := by
  rintro rfl
  refine h role ?_
  have hfront : role.typePrefix.toList ≠ [] := by cases role <;> decide
  rw [structName, String.toList_append, String.toList_append, List.append_assoc,
    List.head?_append_of_ne_nil _ hfront]

theorem functionName_ne {name : String}
    (h : ∀ role : Role, role.functionPrefix.toList.head? ≠ name.toList.head?) (role : Role)
    (t : Table) : functionName role t ≠ name := by
  rintro rfl
  refine h role ?_
  have hfront : role.functionPrefix.toList ≠ [] := by cases role <;> decide
  rw [functionName, String.toList_append, List.head?_append_of_ne_nil _ hfront]

/-- No type but the enumeration is implemented in the schema section, its traits apart. -/
theorem implementations_schema (path : List Tree) (tables : List Table) (script type : String) :
    (schemaItems path tables script).filterMap (Item.implementation? type) =
      if "AllColumns" = type then [enumerationBodyTrees tables] else [] := by
  have hdisplay : Item.implementation? type ⟨[.word "impl", .word "std", .mark ':', .mark ':',
      .word "fmt", .mark ':', .mark ':', .word "Display", .word "for", .word "AllColumns"],
      displayBodyTrees⟩ = none := rfl
  simp only [schemaItems, useItem, constantItem, Item.public, List.filterMap_cons,
    implementation?_of_ne type (p := "use") (by decide),
    implementation?_of_ne type (p := "pub") (by decide), implementation?_impl, hdisplay]
  by_cases htype : "AllColumns" = type <;> simp [htype]

section Module

variable {path : List Tree} (hpath : ∀ t ∈ path, IsPathPart t) (derives : List Tree)
  (tables : List Table) (script : String)

include hpath

/-- **The items of a generated module.** -/
theorem items_moduleTrees : items (moduleTrees path derives tables script) =
    schemaItems path tables script ++ (rolePairs tables).flatMap fun p => roleItems p.1 p.2 := by
  have htables : Itemized (tables.flatMap (tableTrees derives))
      ((rolePairs tables).flatMap fun p => roleItems p.1 p.2) := by
    rw [rolePairs, List.flatMap_assoc]
    simp only [List.flatMap_map]
    exact .flatMap fun t _ => itemized_tableTrees derives t
  exact ((itemized_schemaTrees hpath tables script).append htables).items_eq

/-- A public item that no table section has is looked up in the schema section. -/
theorem named_schema {keyword : String} (hstruct : keyword ≠ "struct") (hfn : keyword ≠ "fn")
    (name : String) : named keyword name (moduleTrees path derives tables script) =
      (schemaItems path tables script).filterMap (Item.named? keyword name) := by
  rw [named, items_moduleTrees hpath, List.filterMap_append, filterMap_roleItems_eq_nil,
    List.append_nil]
  intro role t
  simp [roleItems, functionItem, named?_public, named?_of_ne, hstruct.symm, hfn.symm]

theorem named_tables : named "mod" "tables" (moduleTrees path derives tables script) =
    [([], tableConstantTrees tables)] := by
  rw [named_schema hpath _ _ _ (by decide) (by decide)]
  simp [schemaItems, useItem, constantItem, named?_public, named?_of_ne]

theorem named_columns : named "mod" "columns" (moduleTrees path derives tables script) =
    [([], tables.flatMap tableColumnsTrees)] := by
  rw [named_schema hpath _ _ _ (by decide) (by decide)]
  simp [schemaItems, useItem, constantItem, named?_public, named?_of_ne]

theorem named_enumeration : named "enum" "AllColumns" (moduleTrees path derives tables script) =
    [([], variantNameTrees tables)] := by
  rw [named_schema hpath _ _ _ (by decide) (by decide)]
  simp [schemaItems, useItem, constantItem, named?_public, named?_of_ne]

theorem implementations_enumeration :
    implementations "AllColumns" (moduleTrees path derives tables script) =
      [enumerationBodyTrees tables] := by
  rw [implementations, items_moduleTrees hpath, List.filterMap_append,
    implementations_schema, if_pos rfl, filterMap_roleItems_eq_nil, List.append_nil]
  intro role t
  have hstruct : structName role t ≠ "AllColumns" :=
    structName_ne (by rintro ⟨⟩ <;> decide) role t
  simp [roleItems, functionItem, Item.public, implementation?_impl, implementation?_of_ne, hstruct]

section Distinct

variable {tables} (h : ItemsDistinct tables)

include h

/-- The function of a role is found by its name. -/
theorem named_function {t : Table} (ht : t ∈ tables) (role : Role) :
    named "fn" (functionName role t) (moduleTrees path derives tables script) =
      [(functionParameters role t, functionBody role t)] := by
  have hfound : ∀ r u, (roleItems r u).filterMap (Item.named? "fn" (functionName role t)) =
      if functionName r u = functionName role t then [(functionParameters r u, functionBody r u)]
      else [] := by
    intro r u
    have hname : functionName role t ≠ "_" := functionName_ne (by rintro ⟨⟩ <;> decide) role t
    simp only [roleItems, functionItem, List.filterMap_cons, named?_public,
      named?_of_ne _ _ (p := "impl") (by decide)]
    by_cases heq : functionName r u = functionName role t <;> simp [hname, heq]
  rw [named, items_moduleTrees hpath, List.filterMap_append,
    filterMap_roleItems hfound h.functions ht]
  simp [schemaItems, useItem, constantItem, named?_public, named?_of_ne]

/-- The struct of a role is found by its name. -/
theorem named_struct {t : Table} (ht : t ∈ tables) (role : Role) :
    named "struct" (structName role t) (moduleTrees path derives tables script) =
      [([], memberListTrees (members role t))] := by
  have hfound : ∀ r u, (roleItems r u).filterMap (Item.named? "struct" (structName role t)) =
      if structName r u = structName role t then [([], memberListTrees (members r u))] else [] := by
    intro r u
    have hname : structName role t ≠ "_" := structName_ne (by rintro ⟨⟩ <;> decide) role t
    simp only [roleItems, functionItem, List.filterMap_cons, named?_public,
      named?_of_ne _ _ (p := "impl") (by decide)]
    by_cases heq : structName r u = structName role t <;> simp [hname, heq]
  rw [named, items_moduleTrees hpath, List.filterMap_append, filterMap_roleItems hfound h.structs ht]
  simp [schemaItems, useItem, constantItem, named?_public, named?_of_ne]

/-- So are its methods. -/
theorem implementations_struct {t : Table} (ht : t ∈ tables) (role : Role) :
    implementations (structName role t) (moduleTrees path derives tables script) =
      [methodTrees (members role t)] := by
  have hfound : ∀ r u, (roleItems r u).filterMap (Item.implementation? (structName role t)) =
      if structName r u = structName role t then [methodTrees (members r u)] else [] := by
    intro r u
    simp only [roleItems, functionItem, Item.public, List.filterMap_cons, implementation?_impl,
      implementation?_of_ne _ (p := "pub") (by decide)]
    by_cases heq : structName r u = structName role t <;> simp [heq]
  have hname : "AllColumns" ≠ structName role t :=
    (structName_ne (by rintro ⟨⟩ <;> decide) role t).symm
  rw [implementations, items_moduleTrees hpath, List.filterMap_append,
    implementations_schema, if_neg hname, filterMap_roleItems hfound h.structs ht,
    List.nil_append]

end Distinct

end Module

end Tablewright.AccessModule
