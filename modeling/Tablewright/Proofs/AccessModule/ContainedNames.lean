import Tablewright.Proofs.AccessModule.TableTrees
import Tablewright.Proofs.Extraction.FixedScripts

/-!
# Names in comments

The name of a table is written into four comments of its section as it is. A line feed in a name
ends the comment, so the name stays in comments exactly if each of its lines but the first is a
comment line by itself (`KeepsToComments`), as it is without a line feed: `sectionComments_contained`.
All other comments are fixed texts, or hold identifiers only. A name that does not keep to comments
becomes code (`sectionComments_escape`).
-/

namespace Tablewright.AccessModule

open Block Naming

/-! ## Physical lines -/

/-- A text on one line. -/
def OnOneLine (s : String) : Prop :=
  '\n' ∉ s.toList

theorem onOneLine_ofList {cs : List Char} (h : '\n' ∉ cs) : OnOneLine (String.ofList cs) := by
  rwa [OnOneLine, String.toList_ofList]

theorem OnOneLine.append {s s' : String} (h : OnOneLine s) (h' : OnOneLine s') :
    OnOneLine (s ++ s') := by
  rw [OnOneLine, String.toList_append, List.mem_append]
  exact not_or.2 ⟨h, h'⟩

/-- Every line of a text after the first is a comment line. -/
def KeepsToComments (text : String) : Prop :=
  ∀ line ∈ (physicalLines text.toList).tail, isCommentLine line = true

theorem OnOneLine.keepsToComments {text : String} (h : OnOneLine text) :
    KeepsToComments text := by
  rw [KeepsToComments, physicalLines_of_not_mem h]
  simp

theorem isCommentLine_of_isRemark {text : String} (h : isRemark text = true) (more : List Char) :
    isCommentLine (text.toList ++ more) = true := by
  rw [isRemark, List.isPrefixOf_iff_prefix] at h
  obtain ⟨rest, hrest⟩ := h
  rw [← hrest]
  rfl

/-- A remark on one line. -/
theorem staysComment_of_isRemark {text : String} (h : isRemark text = true)
    (hline : OnOneLine text) : StaysComment text.toList := by
  rw [staysComment_iff_of_not_mem hline, ← List.append_nil text.toList]
  exact isCommentLine_of_isRemark h []

/-- A text that can be put behind a line and leaves it what it is, a comment line or not. -/
structure EndsLine (cs : List Char) : Prop where
  noLineFeed : '\n' ∉ cs
  space : cs.head? ≠ some ' '
  slash : cs.head? ≠ some '/'

theorem endsLine_ofList {cs : List Char} (h : EndsLine cs) : EndsLine (String.ofList cs).toList := by
  rwa [String.toList_ofList]

variable {cs : List Char}

theorem not_isPrefixOf_slashes (h : cs.head? ≠ some '/') : ['/', '/'].isPrefixOf cs = false := by
  cases cs with
  | nil => rfl
  | cons c cs =>
    rw [List.head?_cons, Ne, Option.some.injEq] at h
    rw [List.isPrefixOf, beq_eq_false_iff_ne.2 (Ne.symm h), Bool.false_and]

theorem isCommentLine_append (h : EndsLine cs) (line : List Char) :
    isCommentLine (line ++ cs) = isCommentLine line := by
  induction line with
  | nil =>
    have hdrop : cs.dropWhile (· == ' ') = cs := by
      cases hcs : cs with
      | nil => rfl
      | cons c rest =>
        have hspace := h.space
        rw [hcs, List.head?_cons, Ne, Option.some.injEq] at hspace
        rw [List.dropWhile_cons, beq_eq_false_iff_ne.2 hspace, if_neg Bool.false_ne_true]
    rw [isCommentLine, List.nil_append, hdrop, not_isPrefixOf_slashes h.slash]
    rfl
  | cons c line ih =>
    rw [isCommentLine, isCommentLine, List.cons_append, List.dropWhile_cons, List.dropWhile_cons]
    split
    · exact ih
    · cases line with
      | nil =>
        cases hcs : cs with
        | nil => rfl
        | cons d rest =>
          have hslash := h.slash
          rw [hcs, List.head?_cons, Ne, Option.some.injEq] at hslash
          simp [List.isPrefixOf, Ne.symm hslash]
      | cons d line => simp [List.isPrefixOf]

theorem staysComment_append_iff (h : EndsLine cs) (text : List Char) :
    StaysComment (text ++ cs) ↔ StaysComment text := by
  induction text using lines_induction with
  | hlast line hline =>
    have happend : '\n' ∉ line ++ cs := by simp [hline, h.noLineFeed]
    rw [staysComment_iff_of_not_mem hline, staysComment_iff_of_not_mem happend,
      isCommentLine_append h]
  | hline line rest hline ih =>
    rw [List.append_assoc, List.cons_append, staysComment_append hline, staysComment_append hline, ih]

/-- **A remark around a text stays comment exactly if the text keeps to comments.** -/
theorem staysComment_around_iff {front : String} (hfront : isRemark front = true)
    (hline : OnOneLine front) (hcs : EndsLine cs) (text : String) :
    StaysComment (front.toList ++ text.toList ++ cs) ↔ KeepsToComments text := by
  rw [staysComment_append_iff hcs, KeepsToComments]
  obtain hnot | ⟨line, rest, hnot, htext⟩ := exists_line_or_not_mem text.toList
  · have hall : '\n' ∉ front.toList ++ text.toList := fun h =>
      (List.mem_append.1 h).elim hline hnot
    rw [staysComment_iff_of_not_mem hall, physicalLines_of_not_mem hnot]
    simpa using isCommentLine_of_isRemark hfront text.toList
  · have hall : '\n' ∉ front.toList ++ line := fun h => (List.mem_append.1 h).elim hline hnot
    rw [htext, ← List.append_assoc, staysComment_append hall, physicalLines_append hnot,
      List.tail_cons]
    exact and_iff_right (isCommentLine_of_isRemark hfront line)

/-! ## The comments of a section -/

theorem onOneLine_functionName (role : Role) (t : Table) : OnOneLine (functionName role t) := by
  have hfront : OnOneLine role.functionPrefix := by
    cases role <;> exact onOneLine_ofList (by decide)
  refine hfront.append fun h => ?_
  rw [toList_snakeCase] at h
  have hpart := isNamePart_snakeChars t.name.toList _ h
  revert hpart
  decide

theorem onOneLine_structDoc (role : Role) (t : Table) : OnOneLine (structDoc role t) := by
  have hname := onOneLine_functionName role t
  have hrow : OnOneLine "Row for [`" := onOneLine_ofList (by decide)
  have hfilters : OnOneLine "Equality filters for [`" := onOneLine_ofList (by decide)
  cases role with
  | insert => exact (hrow.append hname).append (onOneLine_ofList (by decide))
  | replace => exact (hrow.append hname).append (onOneLine_ofList (by decide))
  | delete => exact (hfilters.append hname).append (onOneLine_ofList (by decide))

theorem staysComment_structRemarks (role : Role) (t : Table) :
    ∀ text ∈ structRemarks role t, StaysComment text.toList := by
  have hslashes : OnOneLine "/// " := onOneLine_ofList (by decide)
  have hremark : isRemark ("/// " ++ structDoc role t) = true :=
    isRemark_append (isRemark_ofList _) _
  have hfields : isRemark "/// Column/value pairs for every bound column, in column order." = true :=
    isRemark_ofList _
  have hfieldsLine : OnOneLine "/// Column/value pairs for every bound column, in column order." :=
    onOneLine_ofList (by decide)
  rw [structRemarks, List.forall_mem_cons, List.forall_mem_singleton]
  exact ⟨staysComment_of_isRemark hremark (hslashes.append (onOneLine_structDoc role t)),
    staysComment_of_isRemark hfields hfieldsLine⟩

/-- A comment that holds the name of the table stays one exactly if the name keeps to comments. -/
theorem staysComment_named_iff {front behind : String} (hfront : isRemark front = true)
    (hline : OnOneLine front) (hbehind : EndsLine behind.toList) (name : String) :
    StaysComment (front ++ name ++ behind).toList ↔ KeepsToComments name := by
  rw [String.toList_append, String.toList_append]
  exact staysComment_around_iff hfront hline hbehind name

theorem staysComment_title_iff (t : Table) :
    StaysComment ("// table: " ++ t.name).toList ↔ KeepsToComments t.name := by
  have htitle : isRemark "// table: " = true := isRemark_ofList _
  have hline : OnOneLine "// table: " := onOneLine_ofList (by decide)
  have hends : EndsLine "".toList := endsLine_ofList ⟨by decide, by decide, by decide⟩
  have hnamed := staysComment_named_iff htitle hline hends t.name
  rwa [String.append_empty] at hnamed

theorem staysComment_writeDoc_iff (role : Role) (t : Table) :
    StaysComment ("/// " ++ writeDoc role t).toList ↔ KeepsToComments t.name := by
  have hinserts : isRemark "/// Inserts `rows` into `" = true := isRemark_ofList _
  have hinsertsLine : OnOneLine "/// Inserts `rows` into `" := onOneLine_ofList (by decide)
  have horder : EndsLine "` with one statement, in order.".toList :=
    endsLine_ofList ⟨by decide, by decide, by decide⟩
  have hoverwrites : isRemark "/// Overwrites the `" = true := isRemark_ofList _
  have hoverwritesLine : OnOneLine "/// Overwrites the `" := onOneLine_ofList (by decide)
  have hrows : EndsLine "` rows identified by the primary key of each of `rows`.".toList :=
    endsLine_ofList ⟨by decide, by decide, by decide⟩
  have hinsert := staysComment_named_iff hinserts hinsertsLine horder t.name
  have hreplace := staysComment_named_iff hoverwrites hoverwritesLine hrows t.name
  cases role with
  | replace => exact hreplace
  | insert => exact hinsert
  | delete => exact hinsert

theorem staysComment_deleteRemarks_iff (t : Table) :
    (∀ text ∈ deleteRemarks t, StaysComment text.toList) ↔ KeepsToComments t.name := by
  have hdeletes : isRemark "/// Deletes the `" = true := isRemark_ofList _
  have hdeletesLine : OnOneLine "/// Deletes the `" := onOneLine_ofList (by decide)
  have hends : EndsLine "` rows matching every set field of `filter`.".toList :=
    endsLine_ofList ⟨by decide, by decide, by decide⟩
  have hempty : isRemark "///" = true := isRemark_ofList _
  have hemptyLine : OnOneLine "///" := onOneLine_ofList (by decide)
  have hnote : isRemark "/// A filter with no field set is rejected by the database." = true :=
    isRemark_ofList _
  have hnoteLine : OnOneLine "/// A filter with no field set is rejected by the database." :=
    onOneLine_ofList (by decide)
  rw [deleteRemarks, List.forall_mem_cons, List.forall_mem_cons, List.forall_mem_singleton,
    staysComment_named_iff hdeletes hdeletesLine hends]
  exact and_iff_left ⟨staysComment_of_isRemark hempty hemptyLine,
    staysComment_of_isRemark hnote hnoteLine⟩

/-- **The comments of a section are contained exactly if the name of its table keeps to
comments.** -/
theorem commentsContained_tableSection_iff {options : GeneratorOptions}
    (h : options.check = .ok ()) (t : Table) :
    (tableSection t options).CommentsContained ↔ KeepsToComments t.name := by
  obtain ⟨derives, hderives⟩ := exists_lexed_deriveAttribute h
  have hstruct := staysComment_structRemarks
  rw [(spells_tableSection hderives t).commentsContained_iff]
  simp only [tableRemarks, List.forall_mem_append, List.forall_mem_singleton,
    staysComment_title_iff, staysComment_writeDoc_iff, staysComment_deleteRemarks_iff]
  exact ⟨And.left, fun hname => ⟨hname, hstruct .insert t, hname, hstruct .replace t, hname,
    hstruct .delete t, hname⟩⟩

/-- **The name of a table stays in comments and literals exactly if it keeps to comments.** Then
every physical line of a comment of its section is a comment line, and the section is read as its
code alone. -/
theorem sectionComments_contained {tables : List Table} {script : String}
    {options : GeneratorOptions} {m : AccessModule} (h : generate tables script options = .ok m)
    {t : Table} (ht : t ∈ tables) :
    ⟨t.name, (tableSection t options).render⟩ ∈ m.sections ∧
      ((∀ l ∈ tableSection t options, l.isComment = true →
          ∀ line ∈ physicalLines l.render.toList, isCommentLine line = true) ↔
        ∀ line ∈ (physicalLines t.name.toList).tail, isCommentLine line = true) ∧
      ((∀ line ∈ (physicalLines t.name.toList).tail, isCommentLine line = true) →
        lex (.between 0) (tableSection t options).render.toList =
          lex (.between 0) (tableSection t options).code.render.toList) := by
  obtain ⟨hoptions, -, rfl⟩ := generate_eq_ok_iff.1 h
  obtain ⟨derives, hderives⟩ := exists_lexed_deriveAttribute hoptions
  have hspells := spells_tableSection hderives t
  have hcontained := commentsContained_tableSection_iff hoptions t
  refine ⟨?_, hcontained, fun hname => ?_⟩
  · exact List.mem_cons_of_mem _ (List.mem_map.2 ⟨t, ht, rfl⟩)
  · have hrender := hspells.lex_render (hcontained.2 hname) []
    have hcode := hspells.lex_code []
    rw [List.append_nil] at hrender hcode
    rw [hrender, hcode]

/-- A table whose name goes on in a comment of its own. -/
def remarkedTable : Table :=
  ⟨"log\n  // of visits", [.declare "at" .integer true false false]⟩

theorem sectionComments_contained_of_remarkedTable :
    ∃ m, generate [remarkedTable] "" {} = .ok m ∧ ∀ l ∈ tableSection remarkedTable {},
      l.isComment = true → ∀ line ∈ physicalLines l.render.toList, isCommentLine line = true := by
  have h : generate [remarkedTable] "" {} = .ok (ofTables [remarkedTable] "" {}) :=
    generate_eq_ok_iff.2 ⟨by decide, by decide, rfl⟩
  have hname : (physicalLines remarkedTable.name.toList).tail.all isCommentLine = true := by
    decide
  exact ⟨_, h, (sectionComments_contained h List.mem_cons_self).2.1.2 (List.all_eq_true.1 hname)⟩

/-- A script that defines a table with a line feed in its name. -/
def lineFeedScript : String :=
  "CREATE TABLE \"a\nb\" (x TEXT);"

/-- The table that is extracted from it. -/
def lineFeedTable : Table :=
  ⟨"a\nb", [⟨"x", .text, false, false, true⟩]⟩

theorem sectionComments_escape :
    extractTables lineFeedScript .live = .ok [lineFeedTable] ∧
      (∃ m, generate [lineFeedTable] lineFeedScript {} = .ok m) ∧
      ∃ l ∈ tableSection lineFeedTable {}, l.isComment = true ∧
        ∃ line ∈ physicalLines l.render.toList, isCommentLine line = false := by
  have hoptions : ({} : GeneratorOptions).check = .ok () := by decide
  have hcollisions : checkCollisions [lineFeedTable] = .ok () := by decide
  refine ⟨Catalog.extract_of_run String.toList_ofList (by decide +kernel) (by decide),
    ⟨_, generate_eq_ok_iff.2 ⟨hoptions, hcollisions, rfl⟩⟩, ?_⟩
  have hname : ¬KeepsToComments lineFeedTable.name := fun h => by
    have hb := h ['b'] (by decide)
    cases hb
  rw [← commentsContained_tableSection_iff hoptions] at hname
  simpa [CommentsContained, StaysComment] using hname

end Tablewright.AccessModule
