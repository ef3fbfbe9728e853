import Tablewright.Proofs.AccessModule.ContainedNames
import Tablewright.Proofs.AccessModule.SchemaTrees

/-!
# Generated modules read back

What a generated module is read as (`moduleTrees`): its schema section, then the section of each
table. The lines that are no comments are always read so, and the whole text is if the names of the
tables keep to comments (`exists_moduleTrees`).
-/

namespace Tablewright.AccessModule

open Block Naming

/-- A generated module, with the path of the runtime library and what its derive attributes hold. -/
def moduleTrees (path derives : List Tree) (tables : List Table) (script : String) : List Tree :=
  schemaTrees path tables script ++ tables.flatMap (tableTrees derives)

/-- The lines of a generated module, without its header. -/
def moduleBlock (tables : List Table) (script : String) (options : GeneratorOptions) : Block :=
  schemaSection tables script options ++ tables.flatMap fun t => tableSection t options

section Reading

variable {tables : List Table} {script : String} {options : GeneratorOptions}
  {path derives : List Tree}

theorem spells_moduleBlock (hpath : LexedBefore options.runtimeCrate (flatten path))
    (hderives : Lexed options.deriveAttribute (flatten (attributeTrees derives))) :
    (moduleBlock tables script options).Spells (schemaRemarks ++ tables.flatMap tableRemarks)
      (flatten (moduleTrees path derives tables script)) := by
  have htables : Spells (tables.flatMap fun t => tableSection t options)
      (tables.flatMap tableRemarks) (flatten (tables.flatMap (tableTrees derives))) := by
    induction tables with
    | nil => exact .nil
    | cons t tables ih =>
      rw [List.flatMap_cons, List.flatMap_cons, List.flatMap_cons, flatten_append]
      exact (spells_tableSection hderives t).append ih
  rw [moduleTrees, flatten_append]
  exact (spells_schemaSection hpath tables script).append htables

theorem staysComment_schemaRemarks : ∀ text ∈ schemaRemarks, StaysComment text.toList := by
  have hremark : ∀ {cs : List Char}, '\n' ∉ '/' :: '/' :: cs →
      StaysComment (String.ofList ('/' :: '/' :: cs)).toList := fun hline =>
    staysComment_of_isRemark (isRemark_ofList _) (onOneLine_ofList hline)
  simp only [schemaRemarks, List.forall_mem_cons, List.not_mem_nil, false_implies, implies_true,
    and_true]
  refine ⟨?_, ?_, ?_, ?_, ?_, ?_, ?_, ?_, ?_⟩ <;> exact hremark (by decide)

theorem lex_header (rest : List Char) :
    lex (.between 0) (header.toList ++ rest) = lex (.between 0) rest := by
  have hheader : header = "// @generated by sqlgen from a SQL schema script. Do not edit." ++ "\n" := by
    decide
  have hremark : isRemark "// @generated by sqlgen from a SQL schema script. Do not edit." = true :=
    isRemark_ofList _
  have hline : OnOneLine "// @generated by sqlgen from a SQL schema script. Do not edit." :=
    onOneLine_ofList (by decide)
  rw [hheader, String.toList_append, List.append_assoc]
  exact lex_staysComment (staysComment_of_isRemark hremark hline) rest

/-- Texts that are read one by one are read one after the other. -/
theorem lex_join {α : Type} (text : α → String) (tokens : α → List Token) {l : List α}
    (h : ∀ a ∈ l, ∀ rest,
      lex (.between 0) ((text a).toList ++ rest) = tokens a ++ lex (.between 0) rest) :
    lex (.between 0) (String.join (l.map fun a => "\n" ++ text a)).toList = l.flatMap tokens := by
  have hline : "\n".toList = ['\n'] := String.toList_ofList
  induction l with
  | nil => rfl
  | cons a l ih =>
    obtain ⟨ha, hl⟩ := List.forall_mem_cons.1 h
    rw [List.map_cons, String.join_cons, String.toList_append, String.toList_append, hline,
      List.append_assoc, List.singleton_append, lex_newline, ha, ih hl, List.flatMap_cons]

theorem readSource_render (hpath : LexedBefore options.runtimeCrate (flatten path))
    (hderives : Lexed options.deriveAttribute (flatten (attributeTrees derives)))
    (hoptions : options.check = .ok ()) (hnames : ∀ t ∈ tables, KeepsToComments t.name) :
    readSource (ofTables tables script options).render =
      some (moduleTrees path derives tables script) := by
  have hschema := spells_schemaSection hpath tables script
  have hschemaLex := hschema.lex_render (hschema.commentsContained_iff.2 staysComment_schemaRemarks)
  have htables : lex (.between 0)
      (String.join (tables.map fun t => "\n" ++ (tableSection t options).render)).toList =
        tables.flatMap fun t => flatten (tableTrees derives t) :=
    lex_join _ _ fun t ht => (spells_tableSection hderives t).lex_render
      ((commentsContained_tableSection_iff hoptions t).2 (hnames t ht))
  have hline : "\n".toList = ['\n'] := String.toList_ofList
  have hlex : lex (.between 0) (ofTables tables script options).render.toList =
      flatten (moduleTrees path derives tables script) := by
    rw [render, ofTables, String.toList_append, lex_header, List.map_cons, String.join_cons,
      String.toList_append, String.toList_append, hline, List.append_assoc, List.singleton_append,
      lex_newline, hschemaLex, List.map_map, Function.comp_def, htables, moduleTrees,
      flatten_append, flatten_flatMap]
  rw [readSource, hlex, readTrees_flatten]

end Reading

/-- **What a generated module is read as.** -/
theorem exists_moduleTrees {tables : List Table} {script : String} {options : GeneratorOptions}
    {m : AccessModule} (h : generate tables script options = .ok m) :
    ∃ path derives, (∀ t ∈ path, IsPathPart t) ∧
      (moduleBlock tables script options).trees? = some (moduleTrees path derives tables script) ∧
      (∀ t, (tableSection t options).trees? = some (tableTrees derives t)) ∧
      ((∀ t ∈ tables, KeepsToComments t.name) →
        readSource m.render = some (moduleTrees path derives tables script)) := by
  obtain ⟨hoptions, -, rfl⟩ := generate_eq_ok_iff.1 h
  obtain ⟨path, hparts, hpath⟩ := exists_lexedBefore_path (isPath_of_check hoptions)
  obtain ⟨derives, hderives⟩ := exists_lexed_deriveAttribute hoptions
  exact ⟨path, derives, hparts, (spells_moduleBlock hpath hderives).trees?_eq,
    fun t => (spells_tableSection hderives t).trees?_eq, readSource_render hpath hderives hoptions⟩

end Tablewright.AccessModule
