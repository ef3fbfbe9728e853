import Tablewright.Proofs.AccessModule.ConstantPaths
import Tablewright.Proofs.Naming.AsciiNames

/-!
# Names in generated modules

Generated code writes a name of the schema down once, in the value of a constant, and refers to it by
the path of the constant. Where the names of the schema are plain (`PlainNames`), every such path
leads to exactly one constant, and to the name it stands for: `names_resolve`. The constants
themselves are not checked for collisions. They are distinct since the snake-case names are, which
upper case keeps apart (`nodup_tableConstants`, `nodup_columnConstants`).
-/

namespace Tablewright.AccessModule

open Naming

/-! ## Reading a module -/

/-- What the enumeration of columns lists. -/
def listedVariants (root : List Tree) : List (Option (List String)) :=
  (implementations "AllColumns" root).flatMap fun body =>
    (entries (constantValues "ALL" body)).map readPath?

/-- What the enumeration of columns declares. -/
def declaredVariants (root : List Tree) : List (Option (List String)) :=
  (named "enum" "AllColumns" root).flatMap fun p => (parts p.2).map readPath?

/-- The answer of a method of the enumeration to a variant. -/
def answer? (method variant : String) (root : List Tree) : Option (List Tree) :=
  match implementations "AllColumns" root with
  | [body] =>
    match named "fn" method body with
    | [(_, inner)] => answerTo? ["AllColumns", variant] inner
    | _ => none
  | _ => none

/-- The names of all tables, in the order of the list of their constants. -/
def listedTables (root : List Tree) : List (Option String) :=
  (entries (resolve ["tables", "ALL"] root)).map fun entry =>
    (readPath? entry).bind fun path => literal? (resolve ("tables" :: path) root)

/-- What a function passes to the runtime library as the name of a table: the second argument for a
batch of rows, the first one for a deletion. -/
def passedTable? (function : String) (root : List Tree) : Option (List Tree) :=
  match named "fn" function root with
  | [(_, body)] =>
    match callArguments? "batch_statement" body, callArguments? "delete_statement" body with
    | some arguments, none => arguments[1]?
    | none, some arguments => arguments[0]?
    | _, _ => none
  | _ => none

/-! ## Plain names -/

/-- Whether a name is printable ASCII and holds a letter or a digit. -/
def isPlainName (name : String) : Bool :=
  name.toList.all (fun c => 0x20 ≤ c.toNat && c.toNat ≤ 0x7E) && name.toList.any Char.isAlphanum

/-- All names of a schema are plain. -/
def PlainNames (tables : List Table) : Prop :=
  ∀ t ∈ tables, isPlainName t.name = true ∧ ∀ c ∈ t.columns, isPlainName c.name = true

instance (tables : List Table) : Decidable (PlainNames tables) :=
  inferInstanceAs (Decidable (∀ t ∈ tables, _ ∧ _))

section Plain

variable {name : String} (h : isPlainName name = true)

include h

theorem printable_of_isPlainName : ∀ c ∈ name.toList, 0x20 ≤ c.toNat ∧ c.toNat ≤ 0x7E := by
  rw [isPlainName, Bool.and_eq_true, List.all_eq_true] at h
  exact fun c hc => by simpa using h.1 c hc

theorem hasWord_of_isPlainName : HasWord name :=
  List.any_eq_true.1 ((Bool.and_eq_true _ _).mp h).2

theorem isAsciiName_of_isPlainName : IsAsciiName name := by
  intro c hc
  have hle : c.val.toNat ≤ 0x7E := (printable_of_isPlainName h c hc).2
  have hlimit : (0x80 : UInt32).toNat = 0x80 := rfl
  rw [Text.isAscii, decide_eq_true_eq, UInt32.lt_iff_toNat_lt]
  omega

theorem keepsToComments_of_isPlainName : KeepsToComments name := by
  refine OnOneLine.keepsToComments fun hmem => ?_
  have hle := (printable_of_isPlainName h _ hmem).1
  revert hle
  decide

theorem screamingSnakeCase_ne_underscore : screamingSnakeCase name ≠ "_" := fun heq =>
  (screamingSnakeCase_eq_underscore_iff (isAsciiName_of_isPlainName h)).1 heq
    (hasWord_of_isPlainName h)

theorem fieldIdentifier_ne_underscore : fieldIdentifier name ≠ "_" := fun heq =>
  (fieldIdentifier_eq_underscore_iff (isAsciiName_of_isPlainName h)).1 heq (hasWord_of_isPlainName h)

end Plain

/-- Distinct snake-case names of ASCII names are distinct in upper case. -/
theorem nodup_screaming {α : Type} {l : List α} {name : α → String}
    (hascii : ∀ a ∈ l, IsAsciiName (name a)) (h : (l.map fun a => snakeCase (name a)).Nodup) :
    (l.map fun a => screamingSnakeCase (name a)).Nodup := by
  rw [List.Nodup, List.pairwise_map] at h ⊢
  refine h.imp_of_mem fun {a b} ha hb hne heq => hne ?_
  exact screamingSnakeCase_inj (hascii a ha) (hascii b hb) heq

theorem nodup_tableConstants {tables : List Table} (h : Distinct tables) (hnames : PlainNames tables) :
    (tables.map fun t => screamingSnakeCase t.name).Nodup :=
  nodup_screaming (fun t ht => isAsciiName_of_isPlainName (hnames t ht).1) h.tables

theorem nodup_columnConstants {tables : List Table} (h : Distinct tables) (hnames : PlainNames tables)
    {t : Table} (ht : t ∈ tables) : (t.columns.map fun c => screamingSnakeCase c.name).Nodup := by
  refine nodup_screaming (fun c hc => isAsciiName_of_isPlainName ((hnames t ht).2 c hc)) ?_
  refine List.pairwise_map.2 ((List.pairwise_map.1 (h.fields t ht)).imp fun {c c'} hne heq => ?_)
  exact hne (congrArg escapeKeyword heq)

/-! ## Constants -/

theorem constantValues_key {α : Type} {ts : List Tree} {key value : α → String} {l : List α}
    {others : List Item}
    (hitems : items ts = l.map (fun a => constantItem (key a) (value a)) ++ others)
    (hkeys : (l.map key).Nodup) {a : α} (ha : a ∈ l) (hname : key a ≠ "_")
    (hothers : others.filterMap (Item.named? "const" (key a)) = []) :
    constantValues (key a) ts = [[.text (value a)]] := by
  rw [constantValues, named_key hitems hkeys ha hname hothers]
  rfl

section Module

variable {path : List Tree} (hpath : ∀ t ∈ path, IsPathPart t) (derives : List Tree)
  {tables : List Table} (script : String) (h : Distinct tables) (hnames : PlainNames tables)

include hpath

theorem resolve_tables (name : String) :
    resolve ["tables", name] (moduleTrees path derives tables script) =
      constantValues name (tableConstantTrees tables) := by
  simp [resolve, named_tables hpath]

include h hnames

/-- **The path of a table leads to its name.** -/
theorem resolve_tablePath {t : Table} (ht : t ∈ tables) :
    resolve (tablePathNames t) (moduleTrees path derives tables script) = [[.text t.name]] := by
  rw [tablePathNames, resolve_tables hpath]
  refine constantValues_key (items_tableConstantTrees tables) (nodup_tableConstants h hnames) ht
    (screamingSnakeCase_ne_underscore (hnames t ht).1) ?_
  have hall : "ALL" ≠ screamingSnakeCase t.name := (h.notAll t ht).symm
  simp [allTablesItem, named?_public, hall]

/-- **The path of a column leads to its qualified name.** -/
theorem resolve_columnPath {p : Table × Column} (hp : p ∈ allColumns tables) :
    resolve (columnPathNames p) (moduleTrees path derives tables script) =
      [[.text (p.1.name ++ "." ++ p.2.name)]] := by
  obtain ⟨t, ht, hmem⟩ := List.mem_flatMap.1 hp
  obtain ⟨c, hc, rfl⟩ := List.mem_map.1 hmem
  have hmodule := named_key ((items_tableColumns tables).trans (List.append_nil _).symm)
    h.items.modules ht (fieldIdentifier_ne_underscore (hnames t ht).1) rfl
  have hconstant := constantValues_key
    ((items_columnConstantTrees t).trans (List.append_nil _).symm)
    (nodup_columnConstants h hnames ht) hc (screamingSnakeCase_ne_underscore ((hnames t ht).2 c hc)) rfl
  simp [columnPathNames, resolve, named_columns hpath, hmodule, hconstant, Table.qualified]

/-- The list of all tables holds their names. -/
theorem listedTables_moduleTrees : listedTables (moduleTrees path derives tables script) =
    tables.map fun t => some t.name := by
  have hnone : (tables.map fun t => constantItem (screamingSnakeCase t.name) t.name).filterMap
      (Item.named? "const" "ALL") = [] := by
    rw [List.filterMap_map, List.filterMap_eq_nil_iff]
    intro t ht
    simp [constantItem, named?_public, h.notAll t ht]
  have hall : constantValues "ALL" (tableConstantTrees tables) = [[.mark '&', .group .square
      (commaTrees (tables.map fun t => [.word (screamingSnakeCase t.name)]))]] := by
    rw [constantValues, named, items_tableConstantTrees, List.filterMap_append, hnone]
    rfl
  have hentries := parts_commaTrees (l := tables) (f := fun t => [.word (screamingSnakeCase t.name)])
    fun _ _ => ⟨List.cons_ne_nil _ _, rfl⟩
  rw [listedTables, resolve_tables hpath, hall, entries, if_pos rfl, hentries, List.map_map]
  refine List.map_congr_left fun t ht => ?_
  have hresolve := resolve_tablePath hpath derives script h hnames ht
  rw [tablePathNames] at hresolve
  simp [readPath?, hresolve, literal?]

end Module

/-- A method of the enumeration that answers by the variant does so by its arm. -/
theorem answerTo?_byVariant {tables : List Table} {answer : Table × Column → List Tree}
    (hcomma : ∀ p, commaFree (answer p) = true)
    (h : ((allColumns tables).map fun p => variant p.1 p.2).Nodup) {p : Table × Column}
    (hp : p ∈ allColumns tables) :
    answerTo? ["AllColumns", variant p.1 p.2]
      [.word "match", .word "self", .group .curly (armTrees tables answer)] = some (answer p) := by
  have hparts := parts_flatMap (l := allColumns tables)
    (f := fun p => variantTrees p ++ [.mark '=', .mark '>'] ++ answer p) fun p _ => by
      rw [commaFree, List.all_append, ← commaFree, ← commaFree, hcomma p]
      rfl
  have hkeys : ((allColumns tables).map fun p => ["AllColumns", variant p.1 p.2]).Nodup := by
    have hpaths := h.map (f := fun v => ["AllColumns", v]) fun v v' heq => by simpa using heq
    rwa [List.map_map] at hpaths
  rw [answerTo?, if_pos ⟨rfl, rfl⟩, armTrees, hparts]
  exact firstAnswer?_eq_some (fun _ _ => rfl) hkeys hp

section Enumeration

variable {path : List Tree} (hpath : ∀ t ∈ path, IsPathPart t) (derives : List Tree)
  (tables : List Table) (script : String)

include hpath

theorem listedVariants_moduleTrees : listedVariants (moduleTrees path derives tables script) =
    (allColumns tables).map fun p => some ["AllColumns", variant p.1 p.2] := by
  have hall : constantValues "ALL" (enumerationBodyTrees tables) = [[.mark '&', .group .square
      ((allColumns tables).flatMap fun p => variantTrees p ++ [.mark ','])]] := by
    rw [constantValues, named, items_enumerationBodyTrees]
    rfl
  have hparts := parts_flatMap (l := allColumns tables) (f := variantTrees) fun _ _ => rfl
  rw [listedVariants, implementations_enumeration hpath, List.flatMap_singleton, hall, entries,
    if_pos rfl, hparts, List.map_map]
  rfl

theorem declaredVariants_moduleTrees : declaredVariants (moduleTrees path derives tables script) =
    (allColumns tables).map fun p => some [variant p.1 p.2] := by
  have hparts := parts_flatMap (l := allColumns tables) (f := fun p => [.word (variant p.1 p.2)])
    fun _ _ => rfl
  rw [declaredVariants, named_enumeration hpath, List.flatMap_singleton, variantNameTrees, hparts,
    List.map_map]
  rfl

theorem answer?_moduleTrees (h : ((allColumns tables).map fun p => variant p.1 p.2).Nodup)
    {p : Table × Column} (hp : p ∈ allColumns tables) :
    answer? "as_str" (variant p.1 p.2) (moduleTrees path derives tables script) =
        some (columnTrees p) ∧
      answer? "column_name" (variant p.1 p.2) (moduleTrees path derives tables script) =
        some [.text p.2.name] := by
  have hasStr : named "fn" "as_str" (enumerationBodyTrees tables) = [(byVariantParameters,
      [.word "match", .word "self", .group .curly (armTrees tables columnTrees)])] := by
    rw [named, items_enumerationBodyTrees]
    rfl
  have hname : named "fn" "column_name" (enumerationBodyTrees tables) = [(byVariantParameters,
      [.word "match", .word "self",
        .group .curly (armTrees tables fun p => [.text p.2.name])])] := by
    rw [named, items_enumerationBodyTrees]
    rfl
  rw [answer?, answer?, implementations_enumeration hpath]
  simp only [hasStr, hname]
  exact ⟨answerTo?_byVariant (fun _ => rfl) h hp,
    answerTo?_byVariant (fun _ => rfl) h hp⟩

end Enumeration

theorem passedTable?_moduleTrees {path : List Tree} (hpath : ∀ t ∈ path, IsPathPart t)
    (derives : List Tree) {tables : List Table} (script : String) (h : ItemsDistinct tables)
    {t : Table} (ht : t ∈ tables) (role : Role) :
    passedTable? (functionName role t) (moduleTrees path derives tables script) =
      some (tablePathTrees t) := by
  rw [passedTable?, named_function hpath derives script h ht]
  cases role <;> rfl

/-! ## Resolution -/

/-- **The names in a generated module resolve to the names of the schema.** Where names are plain,
every path of a constant leads to exactly one; the enumeration lists the variants that it declares,
one for each column, and answers to each with the qualified name and the name of its column; the list
of all tables and what each function passes lead to the names of the tables. -/
theorem names_resolve {tables : List Table} {script : String} {options : GeneratorOptions}
    {m : AccessModule} (h : generate tables script options = .ok m) (hnames : PlainNames tables) :
    ∃ root, readSource m.render = some root ∧
      (∀ path ∈ foundIn constantPaths root, (resolve path root).length = 1) ∧
      listedVariants root = (allColumns tables).map (fun p => some ["AllColumns", variant p.1 p.2]) ∧
      declaredVariants root = (allColumns tables).map (fun p => some [variant p.1 p.2]) ∧
      ((allColumns tables).map fun p => variant p.1 p.2).Nodup ∧
      (∀ p ∈ allColumns tables,
        (answer? "as_str" (variant p.1 p.2) root).bind readPath? =
            some ["columns", fieldIdentifier p.1.name, screamingSnakeCase p.2.name] ∧
          (answer? "as_str" (variant p.1 p.2) root).bind (denoted? root) =
            some (p.1.name ++ "." ++ p.2.name) ∧
          (answer? "column_name" (variant p.1 p.2) root).bind (denoted? root) = some p.2.name) ∧
      listedTables root = tables.map (fun t => some t.name) ∧
      ∀ t ∈ tables, ∀ role,
        (passedTable? (functionName role t) root).bind readPath? =
            some ["tables", screamingSnakeCase t.name] ∧
          (passedTable? (functionName role t) root).bind (denoted? root) = some t.name := by
  obtain ⟨path, derives, hpath, -, -, hread⟩ := exists_moduleTrees h
  obtain ⟨-, hcollisions, -⟩ := generate_eq_ok_iff.1 h
  have hdistinct := distinct_of_checkCollisions hcollisions
  have htable := fun t => resolve_tablePath (t := t) hpath derives script hdistinct hnames
  have hcolumn := fun p => resolve_columnPath (p := p) hpath derives script hdistinct hnames
  refine ⟨moduleTrees path derives tables script,
    hread fun t ht => keepsToComments_of_isPlainName (hnames t ht).1, ?_,
    listedVariants_moduleTrees hpath derives tables script,
    declaredVariants_moduleTrees hpath derives tables script, hdistinct.variants, ?_,
    listedTables_moduleTrees hpath derives script hdistinct hnames, ?_⟩
  · intro used hused
    rw [constantPaths_moduleTrees hpath, List.mem_append, List.mem_map, List.mem_map] at hused
    rcases hused with ⟨p, hp, rfl⟩ | ⟨⟨role, t⟩, hp, rfl⟩
    · rw [hcolumn p hp]
      rfl
    · rw [htable t (mem_tables_of_mem_rolePairs hp)]
      rfl
  · intro p hp
    obtain ⟨hasStr, hname⟩ := answer?_moduleTrees hpath derives tables script hdistinct.variants hp
    have hresolve := hcolumn p hp
    rw [columnPathNames] at hresolve
    rw [hasStr, hname]
    refine ⟨rfl, ?_, rfl⟩
    simp [denoted?, columnTrees, readPath?, hresolve, literal?]
  · intro t ht role
    have hresolve := htable t ht
    rw [tablePathNames] at hresolve
    rw [passedTable?_moduleTrees hpath derives script hdistinct.items ht]
    refine ⟨rfl, ?_⟩
    simp [denoted?, tablePathTrees, readPath?, hresolve, literal?]

/-- A schema with a keyword, words in upper case and a quote among its names. -/
def quotedTables : List Table :=
  [⟨"type", [.declare "Order By" .text false false false]⟩,
    ⟨"userLogs", [.declare "self" .integer true false false, .declare "say \"hi\"" .text false false false]⟩]

theorem names_resolve_of_quotedTables :
    ∃ m root, generate quotedTables "" {} = .ok m ∧ readSource m.render = some root ∧
      listedTables root = [some "type", some "userLogs"] ∧
      (answer? "as_str" "TypeOrderBy" root).bind (denoted? root) = some "type.Order By" := by
  have h : generate quotedTables "" {} = .ok (ofTables quotedTables "" {}) :=
    generate_eq_ok_iff.2 ⟨by decide, by decide, rfl⟩
  have hnames : PlainNames quotedTables := by decide
  obtain ⟨root, hread, -, -, -, -, hcolumns, htables, -⟩ := names_resolve h hnames
  obtain ⟨-, hanswer, -⟩ := hcolumns _ List.mem_cons_self
  have hvariant : variant ⟨"type", [.declare "Order By" .text false false false]⟩
      (.declare "Order By" .text false false false) = "TypeOrderBy" := by decide
  rw [hvariant] at hanswer
  exact ⟨_, root, h, hread, htables, hanswer⟩

end Tablewright.AccessModule
