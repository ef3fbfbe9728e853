import Tablewright.Proofs.AccessModule.Resolution
import Tablewright.Proofs.Extraction.FixedScripts
import Tablewright.Proofs.Text.Runs
import Tablewright.Statement.Filter

/-!
# Aliases of columns

The enumeration of columns answers to a variant with the qualified name of the column, and puts a
label in place of the table by what follows the first full stop of that name (`aliasedBy?`). That is
the name of the column, as the enumeration gives it without its table, exactly if the name of the
table has no full stop of its own (`aliases_agree_iff`); the name of the column may have some. Else
the rest of the table's name stays (`alias_keeps_part_of_table`).
-/

namespace Tablewright

/-! ## Qualified names cut apart -/

theorem afterFirstDot_append {front : List Char} (h : '.' ∉ front) (behind : List Char) :
    afterFirstDot (front ++ '.' :: behind) = behind := by
  have hrun : ∀ c ∈ front, (c != '.') = true := by
    intro c hc
    rw [bne_iff_ne]
    exact fun heq => h (heq ▸ hc)
  rw [afterFirstDot, Text.dropWhile_append_of_all hrun rfl]

/-- **What follows the first full stop of joined names is the second name** exactly if the first one
has no full stop. -/
theorem afterFirstDot_append_eq_iff {front behind : List Char} :
    afterFirstDot (front ++ '.' :: behind) = behind ↔ '.' ∉ front := by
  constructor
  · intro heq hmem
    obtain ⟨first, rest, rfl, hfirst⟩ := List.eq_append_cons_of_mem hmem
    rw [List.append_assoc, List.cons_append, afterFirstDot_append hfirst] at heq
    have hlength := congrArg List.length heq
    rw [List.length_append, List.length_cons] at hlength
    omega
  · intro h
    exact afterFirstDot_append h behind

theorem toList_qualified (t : Table) (c : Column) :
    (t.qualified c).toList = t.name.toList ++ '.' :: c.name.toList := by
  have hdot : ".".toList = ['.'] := String.toList_ofList
  rw [Table.qualified, String.toList_append, String.toList_append, hdot, List.append_assoc,
    List.singleton_append]

/-- **A label stands in for the table alone** exactly if the name of the table has no full stop. -/
theorem aliased_qualified_iff (label : String) (t : Table) (c : Column) :
    aliased label (t.qualified c) = label ++ "." ++ c.name ↔ '.' ∉ t.name.toList := by
  rw [← @afterFirstDot_append_eq_iff _ c.name.toList, ← toList_qualified, aliased,
    String.append_right_inj, ← String.toList_inj, String.toList_ofList]

namespace AccessModule

open Naming

/-! ## Reading aliases -/

/-- The name of a column without its table, as the enumeration gives it. -/
def columnNameBy? (variant : String) (root : List Tree) : Option String :=
  (answer? "column_name" variant root).bind (denoted? root)

/-- The qualified name of a column, as the enumeration gives it. -/
def qualifiedBy? (variant : String) (root : List Tree) : Option String :=
  (answer? "as_str" variant root).bind (denoted? root)

/-- What a method does that hands its label and the qualified name over to the runtime library. -/
def aliasCall : List Token :=
  [.word "rt", .mark ':', .mark ':', .word "alias", .opening .round, .word "table_alias", .mark ',',
    .word "self", .mark '.', .word "as_str", .opening .round, .closing .round, .closing .round]

/-- The name of a column qualified by a label, as the enumeration puts it together. -/
def aliasedBy? (label variant : String) (root : List Tree) : Option String :=
  match implementations "AllColumns" root with
  | [body] =>
    match named "fn" "alias" body with
    | [(_, call)] =>
      if flatten call = aliasCall then (qualifiedBy? variant root).map (aliased label) else none
    | _ => none
  | _ => none

/-! ## The aliases of a generated module -/

theorem constantValues_columns (name : String) (t : Table) :
    constantValues name (columnConstantTrees t) =
      (t.columns.filter fun c => screamingSnakeCase c.name = name ∧ name ≠ "_").map fun c =>
        [.text (t.qualified c)] := by
  have hvalue : ∀ c : Column, ((constantItem (screamingSnakeCase c.name) (t.qualified c)).named? "const"
      name).map (fun p => (p.1.dropWhile fun t => !t.isMark '=').tail) =
        if screamingSnakeCase c.name = name ∧ name ≠ "_" then some [.text (t.qualified c)]
        else none := by
    intro c
    rw [constantItem, named?_public]
    by_cases heq : screamingSnakeCase c.name = name
    · subst heq
      split <;> simp_all [Tree.isMark]
    · simp [heq]
  rw [constantValues, named, items_columnConstantTrees, List.filterMap_map, List.map_filterMap]
  simp only [Function.comp_apply, hvalue]
  induction t.columns with
  | nil => rfl
  | cons c columns ih =>
    rw [List.filterMap_cons, List.filter_cons, ih]
    by_cases hfound : screamingSnakeCase c.name = name ∧ name ≠ "_"
    · simp [hfound]
    · rw [if_neg hfound, if_neg (by simpa using hfound)]

/-- Values that are literals denote a text if there is one of them. -/
theorem literal?_map {α : Type} {text : α → String} {l : List α} {a : α} (ha : l ≠ [] → a ∈ l) :
    literal? (l.map fun b => [.text (text b)]) = if l.length = 1 then some (text a) else none := by
  rcases l with _ | ⟨b, _ | ⟨b', l⟩⟩
  · rfl
  · rw [List.mem_singleton.1 (ha (List.cons_ne_nil b []))]
    rfl
  · rfl

section Module

variable {path : List Tree} (hpath : ∀ t ∈ path, IsPathPart t) (derives : List Tree)
  {tables : List Table} (script : String)

include hpath

theorem aliasedBy?_moduleTrees (tables : List Table) (label variant : String) :
    aliasedBy? label variant (moduleTrees path derives tables script) =
      (qualifiedBy? variant (moduleTrees path derives tables script)).map (aliased label) := by
  have halias : named "fn" "alias" (enumerationBodyTrees tables) =
      [(aliasItem.head.drop 3, aliasItem.body)] := by
    rw [named, items_enumerationBodyTrees]
    rfl
  rw [aliasedBy?, implementations_enumeration hpath]
  simp only [halias]
  exact if_pos rfl

variable (h : Distinct tables) {p : Table × Column} (hp : p ∈ allColumns tables)

include h hp

theorem columnNameBy?_moduleTrees : columnNameBy? (variant p.1 p.2)
    (moduleTrees path derives tables script) = some p.2.name := by
  obtain ⟨-, hname⟩ := answer?_moduleTrees hpath derives tables script h.variants hp
  rw [columnNameBy?, hname]
  rfl

/-- The path of a column leads to qualified names of columns of its table, to its own one among them
if there are any. -/
theorem exists_resolve_columnPath : ∃ columns : List Column, (columns ≠ [] → p.2 ∈ columns) ∧
    resolve (columnPathNames p) (moduleTrees path derives tables script) =
      columns.map fun c => [.text (p.1.qualified c)] := by
  obtain ⟨t, ht, hmem⟩ := List.mem_flatMap.1 hp
  obtain ⟨c, hc, rfl⟩ := List.mem_map.1 hmem
  have hresolve : resolve (columnPathNames (t, c)) (moduleTrees path derives tables script) =
      (named "mod" (fieldIdentifier t.name) (tables.flatMap tableColumnsTrees)).flatMap fun p =>
        constantValues (screamingSnakeCase c.name) p.2 := by
    simp [columnPathNames, resolve, named_columns hpath]
  by_cases hmodule : fieldIdentifier t.name = "_"
  · have hnone : named "mod" (fieldIdentifier t.name) (tables.flatMap tableColumnsTrees) = [] := by
      rw [named, List.filterMap_eq_nil_iff, items_tableColumns, List.forall_mem_map]
      intro t' _
      rw [named?_public, if_neg]
      rintro ⟨-, heq, hne⟩
      exact hne (heq.trans hmodule)
    exact ⟨[], fun hne => absurd rfl hne, by rw [hresolve, hnone]; rfl⟩
  · have hfound := named_key ((items_tableColumns tables).trans (List.append_nil _).symm)
      h.items.modules ht hmodule rfl
    refine ⟨_, fun hne => ?_, by
      rw [hresolve, hfound, List.flatMap_singleton, constantValues_columns]⟩
    have hname : screamingSnakeCase c.name ≠ "_" := fun heq => hne (by simp [heq])
    exact List.mem_filter.2 ⟨hc, by simp [hname]⟩

/-- The enumeration answers with the qualified name if the path of the column leads to one. -/
theorem qualifiedBy?_moduleTrees :
    qualifiedBy? (variant p.1 p.2) (moduleTrees path derives tables script) =
      if (resolve (columnPathNames p) (moduleTrees path derives tables script)).length = 1 then
        some (p.1.qualified p.2)
      else none := by
  obtain ⟨hasStr, -⟩ := answer?_moduleTrees hpath derives tables script h.variants hp
  obtain ⟨columns, hmem, hresolve⟩ := exists_resolve_columnPath hpath derives script h hp
  have hdenoted : denoted? (moduleTrees path derives tables script) (columnTrees p) =
      literal? (resolve (columnPathNames p) (moduleTrees path derives tables script)) := rfl
  rw [qualifiedBy?, hasStr, Option.bind_some, hdenoted, hresolve, literal?_map hmem, List.length_map]

end Module

/-- **A label stands in for the table alone exactly if the name of the table has no full stop**,
whatever the name of the column holds. In a generated module this tells when the alias of a column
agrees with its name; there is an alias if the path of the column leads to one constant, as it does for
plain names. -/
theorem aliases_agree_iff (t : Table) (c : Column) (label : String) :
    (aliased label (t.qualified c) = label ++ "." ++ c.name ↔ '.' ∉ t.name.toList) ∧
      ∀ tables script options m, generate tables script options = .ok m →
        (t, c) ∈ allColumns tables →
        ∃ root, (moduleBlock tables script options).trees? = some root ∧
          ((∀ t ∈ tables, KeepsToComments t.name) → readSource m.render = some root) ∧
          columnNameBy? (variant t c) root = some c.name ∧
          qualifiedBy? (variant t c) root =
            (if (resolve (columnPathNames (t, c)) root).length = 1 then some (t.qualified c)
            else none) ∧
          aliasedBy? label (variant t c) root =
            (qualifiedBy? (variant t c) root).map (aliased label) ∧
          (PlainNames tables → (resolve (columnPathNames (t, c)) root).length = 1) ∧
          ∀ text, aliasedBy? label (variant t c) root = some text →
            (some text = (columnNameBy? (variant t c) root).map (label ++ "." ++ ·) ↔
              '.' ∉ t.name.toList) := by
  refine ⟨aliased_qualified_iff label t c, fun tables script options m h hmem => ?_⟩
  obtain ⟨-, hcheck, -⟩ := generate_eq_ok_iff.1 h
  have hdistinct := distinct_of_checkCollisions hcheck
  obtain ⟨path, derives, hpath, hblock, -, hread⟩ := exists_moduleTrees h
  have hname := columnNameBy?_moduleTrees hpath derives script hdistinct hmem
  have hqualified := qualifiedBy?_moduleTrees hpath derives script hdistinct hmem
  have halias := aliasedBy?_moduleTrees hpath derives script tables label (variant t c)
  refine ⟨_, hblock, hread, hname, hqualified, halias, fun hplain => ?_, fun text htext => ?_⟩
  · rw [resolve_columnPath hpath derives script hdistinct hplain hmem]
    rfl
  · rw [halias, hqualified] at htext
    split at htext
    · cases htext
      rw [hname, Option.map_some, Option.some.injEq]
      exact aliased_qualified_iff label t c
    · cases htext

/-- A table with a blank in its name and a column with full stops in its name. -/
def dottedColumn : Table × Column :=
  (⟨"done task", [.declare "v1.2.done" .text false false false]⟩,
    .declare "v1.2.done" .text false false false)

theorem aliases_agree_of_dottedColumn :
    aliased "d" "done task.v1.2.done" = "d.v1.2.done" ∧
      ∃ m root, generate [dottedColumn.1] "" {} = .ok m ∧ readSource m.render = some root ∧
        columnNameBy? "DoneTaskV12Done" root = some "v1.2.done" ∧
        aliasedBy? "d" "DoneTaskV12Done" root = some "d.v1.2.done" := by
  have h : generate [dottedColumn.1] "" {} = .ok (ofTables [dottedColumn.1] "" {}) :=
    generate_eq_ok_iff.2 ⟨by decide, by decide, rfl⟩
  have hplain : PlainNames [dottedColumn.1] := by decide
  have hdot : '.' ∉ dottedColumn.1.name.toList := by decide
  have hcomments : ∀ t ∈ [dottedColumn.1], KeepsToComments t.name :=
    fun t ht => keepsToComments_of_isPlainName (hplain t ht).1
  obtain ⟨hagrees, hmodule⟩ := aliases_agree_iff dottedColumn.1 dottedColumn.2 "d"
  obtain ⟨root, -, hread, hname, hqualified, halias, hlength, -⟩ :=
    hmodule [dottedColumn.1] "" {} _ h List.mem_cons_self
  have hvariant : variant dottedColumn.1 dottedColumn.2 = "DoneTaskV12Done" := by decide
  have haliased := hagrees.2 hdot
  rw [hqualified, if_pos (hlength hplain), Option.map_some, haliased] at halias
  rw [hvariant] at hname halias
  exact ⟨haliased, _, root, h, hread hcomments, hname, halias⟩

/-- A script that defines a table with a full stop in its name. -/
def dottedScript : String :=
  "CREATE TABLE \"a.b\" (c TEXT);"

/-- The table that is extracted from it, with its column. -/
def dottedTable : Table :=
  ⟨"a.b", [⟨"c", .text, false, false, true⟩]⟩

theorem alias_keeps_part_of_table :
    extractTables dottedScript .live = .ok [dottedTable] ∧
      aliased "x" "a.b.c" = "x.b.c" ∧
      ∃ m root, generate [dottedTable] dottedScript {} = .ok m ∧ readSource m.render = some root ∧
        qualifiedBy? "ABC" root = some "a.b.c" ∧ columnNameBy? "ABC" root = some "c" ∧
        aliasedBy? "x" "ABC" root = some "x.b.c" := by
  have h : generate [dottedTable] dottedScript {} = .ok (ofTables [dottedTable] dottedScript {}) :=
    generate_eq_ok_iff.2 ⟨by decide, by decide, rfl⟩
  have hplain : PlainNames [dottedTable] := by decide
  have hcomments : ∀ t ∈ [dottedTable], KeepsToComments t.name :=
    fun t ht => keepsToComments_of_isPlainName (hplain t ht).1
  have hdistinct := distinct_of_checkCollisions (generate_eq_ok_iff.1 h).2.1
  obtain ⟨path, derives, hpath, -, -, hread⟩ := exists_moduleTrees h
  have hmem : (dottedTable, ⟨"c", .text, false, false, true⟩) ∈ allColumns [dottedTable] :=
    List.mem_cons_self
  have hname := columnNameBy?_moduleTrees hpath derives dottedScript hdistinct hmem
  have hqualified := qualifiedBy?_moduleTrees hpath derives dottedScript hdistinct hmem
  rw [resolve_columnPath hpath derives dottedScript hdistinct hplain hmem] at hqualified
  have hvariant : variant dottedTable ⟨"c", .text, false, false, true⟩ = "ABC" := by decide
  have haliased : aliased "x" "a.b.c" = "x.b.c" := by decide
  rw [hvariant] at hname hqualified
  refine ⟨Catalog.extract_of_run String.toList_ofList (by decide +kernel) (by decide),
    haliased, _, _, h, hread hcomments, hqualified, hname, ?_⟩
  rw [aliasedBy?_moduleTrees hpath, hqualified]
  exact congrArg some haliased

end AccessModule

end Tablewright
