import Tablewright.Proofs.Extraction.DefinedIncrements
import Tablewright.Proofs.Extraction.StoredDeclarations
import Tablewright.Proofs.Schema.FirstProblem

/-!
# Extracting printed scripts

The text of a printed table consists of words and of marks between them, so that the search for
AUTOINCREMENT finds a word of the definition or nothing (`exists_increment_of_contains`). The keyword
follows the column that it is printed for without a comma between them, so the flags of the columns
are the right ones (`showsIncrement_definitionOf`), and the table is read back from the catalog
(`readTable_stored`). A whole script gives back the tables that it was printed from
(`extractTables_live_script`).
-/

namespace Tablewright

/-! ## The keyword among words -/

namespace Outline

open Text

variable {cs rest w : List Char} {before : Option Char}

theorem exists_of_keyword? {k : List Char} (h : keyword? k cs = some rest) :
    ∃ front, cs = front ++ rest ∧ front.map foldCase = k := by
  induction k generalizing cs with
  | nil =>
    rw [keyword?, Option.some.injEq] at h
    exact ⟨[], h, rfl⟩
  | cons k ks ih =>
    cases cs with
    | nil => cases h
    | cons c cs =>
      rw [keyword?] at h
      split at h
      · rename_i hc
        obtain ⟨front, rfl, rfl⟩ := ih h
        exact ⟨c :: front, rfl, by rw [List.map_cons, beq_iff_eq.1 hc]⟩
      · cases h

/-- The characters between the words of a printed definition. -/
def printedMarks : List Char :=
  [' ', '\n', '(', ')', ',', ';']

theorem not_mem_keyword_of_mark : ∀ c ∈ printedMarks, foldCase c ∉ "autoincrement".toList := by
  intro c hc
  simp only [printedMarks, List.mem_cons, List.not_mem_nil, or_false] at hc
  rcases hc with rfl | rfl | rfl | rfl | rfl | rfl <;> decide

/-- The keyword does not begin with a mark. -/
theorem contains_of_mark {c : Char} (hc : c ∈ printedMarks)
    (h : contains ["autoincrement"] before (c :: cs) = true) :
    contains ["autoincrement"] (some c) cs = true := by
  rw [contains, Bool.or_eq_true, Bool.and_eq_true] at h
  rcases h with ⟨-, h⟩ | h
  · obtain ⟨rest, hrest, -⟩ := beginsWith_iff.1 h
    obtain ⟨front, heq, hfold⟩ := exists_of_keyword? hrest
    cases front with
    | nil => simp at hfold
    | cons d front =>
      obtain ⟨rfl, -⟩ := List.cons.inj heq
      refine absurd ?_ (not_mem_keyword_of_mark c hc)
      rw [← hfold]
      exact List.mem_cons_self
  · exact h

theorem contains_of_marks {gap : List Char} (hgap : ∀ c ∈ gap, c ∈ printedMarks)
    (h : contains ["autoincrement"] before (gap ++ cs) = true) :
    ∃ before, contains ["autoincrement"] before cs = true := by
  induction gap generalizing before with
  | nil => exact ⟨before, h⟩
  | cons c gap ih =>
    exact ih (fun d hd => hgap d (List.mem_cons_of_mem c hd))
      (contains_of_mark (hgap c List.mem_cons_self) h)

/-- No phrase begins within a word. -/
theorem contains_behind_word {ks : List String} {c : Char} (hc : isPlainNameChar c = true)
    (hw : ∀ d ∈ w, isPlainNameChar d = true) (h : contains ks (some c) (w ++ rest) = true) :
    ∃ before, contains ks before rest = true := by
  induction w generalizing c with
  | nil => exact ⟨some c, h⟩
  | cons d w ih =>
    have hword : wordBegins (some c) = false := by
      simp [wordBegins, (facts_of_isPlainNameChar hc).2.2.1]
    rw [List.cons_append, contains, hword, Bool.false_and, Bool.false_or] at h
    exact ih (hw d List.mem_cons_self) (fun e he => hw e (List.mem_cons_of_mem d he)) h

/-- A word in front of a mark is the keyword, or the keyword stands behind it. -/
theorem word_of_contains (hw : ∀ c ∈ w, isPlainNameChar c = true)
    (hrest : ∀ c ∈ rest.head?, c ∈ printedMarks)
    (h : contains ["autoincrement"] before (w ++ rest) = true) :
    w.map foldCase = "autoincrement".toList ∨
      ∃ before, contains ["autoincrement"] before rest = true := by
  cases w with
  | nil => exact .inr ⟨before, h⟩
  | cons c w =>
    rw [List.cons_append, contains, Bool.or_eq_true, Bool.and_eq_true] at h
    rcases h with ⟨-, h⟩ | h
    · left
      obtain ⟨behind, hbehind, hends⟩ := beginsWith_iff.1 h
      obtain ⟨front, heq, hfold⟩ := exists_of_keyword? hbehind
      rcases List.append_eq_append_iff.1 (List.cons_append ▸ heq) with
        ⟨more, rfl, rfl⟩ | ⟨more, hmore, rfl⟩
      · cases more with
        | nil => rw [← hfold, List.append_nil]
        | cons d more =>
          refine absurd ?_ (not_mem_keyword_of_mark d (hrest d rfl))
          rw [← hfold]
          exact List.mem_map_of_mem (by simp)
      · cases more with
        | nil => rw [hmore, List.append_nil, hfold]
        | cons d more =>
          have hd := (facts_of_isPlainNameChar (hw d (by simp [hmore]))).2.2.1
          simp [wordEnds, hd] at hends
    · exact .inr (contains_behind_word (hw c List.mem_cons_self)
        (fun d hd => hw d (List.mem_cons_of_mem c hd)) h)

end Outline

namespace Catalog

open Sql Grammar

open Outline

/-- A lexeme as it is printed: a word with something in front of it, or a mark. -/
inductive IsPrinted : Lexeme → Prop
  | word {gap : List Char} {w : String} (hne : gap ≠ []) (hgap : ∀ c ∈ gap, c ∈ printedMarks)
      (hw : ∀ c ∈ w.toList, isPlainNameChar c = true) : IsPrinted (wordAt gap w)
  | mark {gap : List Char} {c : Char} (hgap : ∀ c ∈ gap, c ∈ printedMarks) (hc : c ∈ printedMarks) :
      IsPrinted (markAt gap c)

section Words

variable {ls : List Lexeme} {before : Option Char}

theorem head_textOf (h : ∀ l ∈ ls, IsPrinted l) : ∀ c ∈ (textOf ls).head?, c ∈ printedMarks := by
  cases ls with
  | nil => nofun
  | cons l ls =>
    rw [textOf_cons]
    cases h l List.mem_cons_self with
    | @word gap w hne hgap hw =>
      obtain ⟨c, gap, rfl⟩ := List.exists_cons_of_ne_nil hne
      rintro _ ⟨⟩
      exact hgap c List.mem_cons_self
    | @mark gap c hgap hc =>
      cases gap with
      | nil =>
        rintro _ ⟨⟩
        exact hc
      | cons d gap =>
        rintro _ ⟨⟩
        exact hgap d List.mem_cons_self

theorem isIncrement_wordAt (gap : List Char) {w : String}
    (hw : ∀ c ∈ w.toList, isPlainNameChar c = true)
    (h : w.toList.map Text.foldCase = "autoincrement".toList) : (wordAt gap w).isIncrement = true := by
  have hlower : Text.lowerAscii w = "autoincrement" := by
    refine String.toList_inj.1 ?_
    rw [Text.lowerAscii, String.toList_map, ← h]
    exact List.map_congr_left fun c hc => (facts_of_isPlainNameChar (hw c hc)).1.symm
  have hsame : Text.sameName w "AUTOINCREMENT" = true := by
    rw [Text.sameName_iff, hlower]
    decide +kernel
  exact hsame

/-- **The keyword is found among printed lexemes** only if it is one of them. -/
theorem exists_increment_of_contains (h : ∀ l ∈ ls, IsPrinted l)
    (hfound : contains ["autoincrement"] before (textOf ls) = true) :
    ∃ l ∈ ls, l.isIncrement = true := by
  induction ls generalizing before with
  | nil => cases hfound
  | cons l ls ih =>
    have hls : ∀ m ∈ ls, IsPrinted m := fun m hm => h m (List.mem_cons_of_mem l hm)
    have hbehind : (∃ before, contains ["autoincrement"] before (textOf ls) = true) →
        ∃ m ∈ l :: ls, m.isIncrement = true := by
      rintro ⟨before, hfound⟩
      obtain ⟨m, hm, hincrement⟩ := ih hls hfound
      exact ⟨m, List.mem_cons_of_mem l hm, hincrement⟩
    rw [textOf_cons] at hfound
    cases h l List.mem_cons_self with
    | @word gap w hne hgap hw =>
      obtain ⟨before, hfound⟩ := contains_of_marks hgap hfound
      rcases word_of_contains hw (head_textOf hls) hfound with hword | hfound
      · exact ⟨_, List.mem_cons_self, isIncrement_wordAt _ hw hword⟩
      · exact hbehind hfound
    | @mark gap c hgap hc =>
      obtain ⟨before, hfound⟩ := contains_of_marks hgap hfound
      exact hbehind ⟨_, contains_of_mark hc hfound⟩

end Words

/-! ## Printed tables -/

section Tables

variable {t : TableDeclaration}

theorem mem_of_mem_intercalate {α : Type} {separator : List α} {items : List (List α)} {a : α}
    (h : a ∈ List.intercalate separator items) : a ∈ separator ∨ ∃ item ∈ items, a ∈ item := by
  induction items with
  | nil => cases h
  | cons item items ih =>
    rw [Text.intercalate_cons, List.mem_append, List.mem_flatMap] at h
    rcases h with h | ⟨other, hother, h⟩
    · exact .inr ⟨item, List.mem_cons_self, h⟩
    · rcases List.mem_append.1 h with h | h
      · exact .inl h
      · exact .inr ⟨other, List.mem_cons_of_mem item hother, h⟩

/-- An item stands somewhere among items with separators between them. -/
theorem exists_append_of_mem {α : Type} (separator : List α) {items : List (List α)}
    {item : List α} (h : item ∈ items) : ∃ front behind,
      List.intercalate separator items = front ++ (item ++ behind) := by
  induction items with
  | nil => cases h
  | cons first items ih =>
    rw [Text.intercalate_cons]
    rcases List.mem_cons.1 h with rfl | h
    · exact ⟨[], _, rfl⟩
    · obtain ⟨before, after, rfl⟩ := List.append_of_mem h
      exact ⟨first ++ (before.flatMap (separator ++ ·) ++ separator), after.flatMap (separator ++ ·),
        by simp⟩

theorem plain_columnWords (affinity : Affinity) (notNull primaryKey autoIncrement : Bool) :
    ∀ w ∈ affinity.keyword :: plainConstraintWords notNull primaryKey autoIncrement,
      ∀ c ∈ w.toList, isPlainNameChar c = true := by
  have hall : ∀ w ∈ affinity.keyword :: plainConstraintWords notNull primaryKey autoIncrement,
      w.toList.all isPlainNameChar = true := by
    cases affinity <;> cases notNull <;> cases primaryKey <;> cases autoIncrement <;> decide
  exact fun w hw => List.all_eq_true.1 (hall w hw)

theorem isPrinted_columnLexemesOf {c : ColumnDeclaration} (hc : isCanonicalName c.name = true) :
    ∀ l ∈ columnLexemesOf c, IsPrinted l := by
  intro l hl
  rw [columnLexemesOf, columnLexemes, ← List.map_cons, List.mem_cons, List.mem_map] at hl
  rcases hl with rfl | ⟨w, hw, rfl⟩
  · exact .word (by decide) (by simp [printedMarks]) (facts_of_canonicalName hc).2.2.2
  · exact .word (by decide) (by simp [printedMarks]) (plain_columnWords _ _ _ _ w hw)

/-- The lexemes behind the parenthesis of a printed table. -/
theorem isPrinted_itemLexemes (ht : ∀ c ∈ t.columns, isCanonicalName c.name = true) :
    ∀ l ∈ itemLexemes (t.columns.map columnLexemesOf), IsPrinted l := by
  intro l hl
  rcases List.mem_append.1 hl with hl | hl
  · rcases mem_of_mem_intercalate hl with hl | ⟨_, hitem, hl⟩
    · rw [List.mem_singleton.1 hl]
      exact .mark (by simp [printedMarks]) (by decide)
    · obtain ⟨c, hc, rfl⟩ := List.mem_map.1 hitem
      exact isPrinted_columnLexemesOf (ht c hc) l hl
  · rw [List.mem_singleton.1 hl]
    exact .mark (by simp [printedMarks]) (by decide)

theorem definitionItems_table (t : TableDeclaration) (gap : List Char) (rest : List Lexeme) :
    definitionItems ((Declaration.table t).lexemes gap ++ rest) rest =
      itemLexemes (t.columns.map columnLexemesOf) ++ [markAt [] ';'] := by
  rw [definitionItems, Grammar.take_length_sub, Declaration.lexemes, definitionLexemes, tableLexemes]
  simp [behindParenthesis, wordAt, markAt]

/-- The constraints of an autoincremented column, up to the keyword. -/
theorem columnLexemesOf_autoIncrement {c : ColumnDeclaration} (hkey : c.primaryKey = true)
    (hincrement : c.autoIncrement = true) : ∃ between,
      columnLexemesOf c =
        wordAt ['\n', ' ', ' '] c.name :: (between ++ [wordAt [' '] "AUTOINCREMENT"]) ∧
      separates (textOf between ++ [' ']) = true := by
  obtain ⟨name, affinity, notNull, primaryKey, autoIncrement⟩ := c
  obtain rfl : primaryKey = true := hkey
  obtain rfl : autoIncrement = true := hincrement
  refine ⟨(affinity.keyword :: (plainConstraintWords notNull true true).dropLast).map
    (wordAt [' ']), ?_, ?_⟩
  · cases notNull <;> rfl
  · cases affinity <;> cases notNull <;> decide

theorem increments_definitionOf {i : Nat} :
    (definitionOf t).increments i = true ↔
      ∃ c, t.columns[i]? = some c ∧ c.primaryKey = true ∧ c.autoIncrement = true := by
  have hconstraints : (definitionOf t).constraints = [] := rfl
  rw [TableDefinition.increments, hconstraints, columns_definitionOf, List.any_nil, Bool.or_false,
    List.getElem?_map, Option.any_map, Option.any_eq_true]
  refine exists_congr fun c => and_congr_right fun _ => ?_
  obtain ⟨name, affinity, notNull, primaryKey, autoIncrement⟩ := c
  cases notNull <;> cases primaryKey <;> cases autoIncrement <;>
    simp [columnDefinitionOf, plainConstraints, ColumnConstraint.isIncrement]

/-- **The text of a printed table shows** which column is autoincremented. -/
theorem showsIncrement_definitionOf (hname : isCanonicalName t.name = true)
    (hcolumns : ∀ c ∈ t.columns, isCanonicalName c.name = true) :
    ShowsIncrement (definitionOf t)
      (itemLexemes (t.columns.map columnLexemesOf) ++ [markAt [] ';']) := by
  have hitems := isPrinted_itemLexemes hcolumns
  constructor
  · intro hfound
    obtain ⟨-, hreserved, -, hplain⟩ := facts_of_canonicalName hname
    have hmark : IsPrinted (markAt [' '] '(') := .mark (by simp [printedMarks]) (by decide)
    have hprinted : ∀ l ∈ markAt [' '] '(' :: itemLexemes (t.columns.map columnLexemesOf),
        IsPrinted l := List.forall_mem_cons.2 ⟨hmark, hitems⟩
    have hsource : (definitionOf t).source.toList = t.name.toList ++
        textOf (markAt [' '] '(' :: itemLexemes (t.columns.map columnLexemesOf)) := by
      rw [definitionOf, plainDefinition, String.toList_ofList, List.map_map]
      rfl
    rw [hsource] at hfound
    rcases word_of_contains hplain (head_textOf hprinted) hfound with hword | ⟨before, hfound⟩
    · have hincrement : isKeyword "AUTOINCREMENT" (.word t.name) = true :=
        isIncrement_wordAt [] hplain hword
      rw [isReserved, List.any_eq_false] at hreserved
      exact absurd hincrement (hreserved _ (by decide))
    · obtain ⟨l, hl, hincrement⟩ := exists_increment_of_contains hprinted hfound
      rcases List.mem_cons.1 hl with rfl | hl
      · cases hincrement
      · exact ⟨l, List.mem_append_left _ hl, hincrement⟩
  · intro i c hi hc
    obtain ⟨d, hd, hkey, hincrement⟩ := increments_definitionOf.1 hi
    obtain ⟨between, hlexemes, hseparates⟩ := columnLexemesOf_autoIncrement hkey hincrement
    rw [columns_definitionOf, List.getElem?_map, hd, Option.map_some, Option.some.injEq] at hc
    subst hc
    obtain ⟨front, behind, hcut⟩ := exists_append_of_mem [markAt [] ',']
      (List.mem_map_of_mem (f := columnLexemesOf) (List.mem_of_getElem? hd))
    have hwritten : IsWrittenName d.name (wordAt ['\n', ' ', ' '] d.name) :=
      ⟨([], []), by decide, d.name.toList, by simp [wordAt], rfl⟩
    refine ⟨front, _, between, wordAt [' '] "AUTOINCREMENT", ?_, hwritten, ?_, by decide, hseparates⟩
    · rw [itemLexemes, hcut, hlexemes]
      exact ⟨behind ++ [markAt ['\n'] ')', markAt [] ';'], by simp⟩
    · simp only [nameBegins, wordAt, List.getLast?_append]
      rfl

/-- What the catalog tells of a printed column. -/
theorem getElem?_catalogColumns {stored : StoredTable} {i : Nat} {c : ColumnDeclaration}
    (hkey : stored.primaryKey = keyPositions t)
    (hcolumns : stored.columns =
      t.columns.map fun c => TableDefinition.storedColumn (columnDefinitionOf c) false)
    (hc : t.columns[i]? = some c) : stored.catalogColumns[i]? =
      some ⟨c.name, c.affinity.keyword, c.notNull, c.primaryKey⟩ := by
  have hprimary : stored.primaryKey.contains i = c.primaryKey := by
    rw [Bool.eq_iff_iff, List.contains_iff_mem, hkey, mem_keyPositions]
    simp [hc]
  have hstored : ∀ c : ColumnDeclaration,
      let stored := TableDefinition.storedColumn (columnDefinitionOf c) false
      stored.name = c.name ∧ stored.declaredType = c.affinity.keyword ∧
        stored.isNotNull = c.notNull := by
    rintro ⟨name, affinity, notNull, primaryKey, autoIncrement⟩
    refine ⟨rfl, rfl, ?_⟩
    cases notNull <;> cases primaryKey <;> rfl
  obtain ⟨hname, htype, hnotNull⟩ := hstored c
  rw [StoredTable.catalogColumns, List.getElem?_mapIdx, hcolumns, List.getElem?_map, hc,
    Option.map_some, Option.map_some, hname, htype, hnotNull, hprimary]

/-- **A printed table is read back** from the catalog. -/
theorem readTable_stored {own rest : List Lexeme} {script : String} {stored : StoredTable}
    (ht : (Declaration.table t).isReadable = true)
    (hinteger : ∀ c ∈ t.columns, c.autoIncrement = true → c.affinity = .integer)
    (hconsistent : isConsistent t = true)
    (hread : Database.IsReadIn (.createTable (definitionOf t)) own rest (lex script))
    (hitems : definitionItems own rest = itemLexemes (t.columns.map columnLexemesOf) ++ [markAt [] ';'])
    (hstored : StoredTable.ofDefinition? (definitionOf t) = some stored) :
    readTable stored.catalogEntry stored.catalogColumns = .ok t.table := by
  simp only [Declaration.isReadable, Bool.and_eq_true, List.all_eq_true, Bool.not_eq_true',
    Bool.or_eq_true] at ht
  obtain ⟨⟨hname, -⟩, hcolumns⟩ := ht
  obtain ⟨hemptied, hstoredName⟩ := StoredTable.emptied_of_ofDefinition? hstored
  obtain ⟨_, hstored', hkey, hstoredColumns⟩ := exists_stored hconsistent hinteger
  obtain rfl := Option.some.inj (hstored.symm.trans hstored')
  have hsource : stored.source = (definitionOf t).source := by
    obtain ⟨_, _, _, -, -, -, -, rfl⟩ := StoredTable.exists_of_ofDefinition? hstored
    rfl
  have hshows := showsIncrement_definitionOf hname fun c hc => (hcolumns c hc).1
  rw [← hitems] at hshows
  refine readTable_of_readColumn hstoredName.symm
    (by simp [hstoredColumns, StoredTable.catalogColumns, TableDeclaration.table])
    fun i told column htold hcolumn => ?_
  obtain ⟨c, hc, rfl⟩ : ∃ c, t.columns[i]? = some c ∧ c.column = column := by
    simpa [TableDeclaration.table] using hcolumn
  obtain rfl := Option.some.inj (htold.symm.trans (getElem?_catalogColumns hkey hstoredColumns hc))
  obtain ⟨column, hread'⟩ : ∃ column, readColumn stored.catalogEntry.name
      (definitionBody stored.catalogEntry.definition)
      ⟨c.name, c.affinity.keyword, c.notNull, c.primaryKey⟩ = .ok column :=
    ⟨_, readColumn_eq_ok_iff.2 ⟨c.affinity, ofText_keyword c.affinity, rfl⟩⟩
  have hdefined : (definitionOf t).columns[i]? = some (columnDefinitionOf c) := by
    rw [columns_definitionOf, List.getElem?_map, hc, Option.map_some]
  have hflag := isAutoIncrement_eq_increments (hemptied.symm ▸ hstored) htold hread'
    (fun hincrements =>
      declares_of_marksIncrement hread hsource (hshows.marked i _ hincrements hdefined))
    (declared_of_declaresAutoIncrement hread hsource hshows.spoken)
  have hincrements : (definitionOf t).increments i = c.autoIncrement := by
    rw [Bool.eq_iff_iff, increments_definitionOf]
    simp only [hc, Option.some.injEq, exists_eq_left']
    refine ⟨And.right, fun hincrement => ⟨?_, hincrement⟩⟩
    simpa [hincrement] using (hcolumns c (List.mem_of_getElem? hc)).2
  obtain ⟨affinity, haffinity, rfl⟩ := readColumn_eq_ok_iff.1 hread'
  obtain rfl := Except.ok.inj ((ofText_keyword c.affinity).symm.trans haffinity)
  rw [hincrements] at hflag
  rw [hread']
  exact congrArg (fun flag => Except.ok (Column.declare c.name c.affinity c.notNull c.primaryKey flag))
    hflag

end Tables

/-! ## Printed scripts -/

/-- The tables that are declared. -/
def tablesOf (declarations : List Declaration) : List Table :=
  (declarations.filterMap (·.table?)).map (·.table)

/-- Whether the names in a declaration are words that are no keywords. -/
def Declaration.isNamed : Declaration → Bool
  | table t => (t.name :: t.columns.map (·.name)).all isCanonicalName
  | index i => !i.columns.isEmpty && (i.name :: i.table :: i.columns).all isCanonicalName

/-- Whether every index is over columns of a table in front of it. -/
def indexesFit (tables : List TableDeclaration) : List Declaration → Bool
  | [] => true
  | .table t :: ds => indexesFit (tables ++ [t]) ds
  | .index i :: ds => i.fits tables && indexesFit tables ds

/-- Declarations that make sense one after the other. -/
structure IsConsistent (declarations : List Declaration) : Prop where
  named : ∀ d ∈ declarations, d.isNamed = true
  /-- No two tables or indexes have one name, in whatever case. -/
  distinct : (declarations.map fun d => Text.lowerAscii d.name).Nodup
  /-- No name is one of the database's own. -/
  unreserved : ∀ d ∈ declarations, Database.isReservedName d.name = false
  consistent : ∀ t ∈ declarations.filterMap (·.table?), isConsistent t = true
  indexes : indexesFit [] declarations = true
  valid : firstProblem? (tablesOf declarations) = none

/-- What declarations have to satisfy for their script to be extracted. -/
structure IsCanonical (declarations : List Declaration) : Prop
    extends IsConsistent declarations where
  /-- No table has the name under which the columns of tables are queried. -/
  queried : ∀ t ∈ declarations.filterMap (·.table?),
    Text.sameName t.name Database.columnQueryName = false
  narrow : ∀ d ∈ declarations, d.isNarrow = true
  short : (script declarations).utf8ByteSize ≤ longestText

section Scripts

variable {declarations : List Declaration}

/-- The columns of the tables are as they have to be. -/
theorem IsConsistent.columns (h : IsConsistent declarations) {t : TableDeclaration}
    (ht : .table t ∈ declarations) : t.columns ≠ [] ∧ ∀ c ∈ t.columns, c.autoIncrement = true →
      c.primaryKey = true ∧ c.affinity = .integer := by
  have hmem : t.table ∈ tablesOf declarations :=
    List.mem_map_of_mem (List.mem_filterMap.2 ⟨_, ht, rfl⟩)
  have hsound : t.table.IsSound := (firstProblem?_eq_none_iff.1 h.valid).tables _ hmem
  exact ⟨fun hnone => hsound.nonempty (List.map_eq_nil_iff.2 hnone), fun c hc hincrement =>
    hsound.columns.increments c.column (List.mem_map_of_mem hc) hincrement⟩

theorem IsConsistent.isReadable (h : IsConsistent declarations) :
    ∀ d ∈ declarations, d.isReadable = true := by
  intro d hd
  have hnamed := h.named d hd
  cases d with
  | table t =>
    obtain ⟨hne, hcolumns⟩ := h.columns hd
    simp only [Declaration.isNamed, List.all_cons, List.all_map, Bool.and_eq_true,
      List.all_eq_true] at hnamed
    simp only [Declaration.isReadable, Bool.and_eq_true, List.all_eq_true, Bool.not_eq_true',
      List.isEmpty_eq_false_iff, Bool.or_eq_true]
    refine ⟨⟨hnamed.1, hne⟩, fun c hc => ⟨hnamed.2 c hc, ?_⟩⟩
    cases hincrement : c.autoIncrement with
    | false => exact .inl rfl
    | true => exact .inr (hcolumns c hc hincrement).1
  | index i =>
    simp only [Declaration.isNamed, List.all_cons, Bool.and_eq_true] at hnamed
    simp only [Declaration.isReadable, Bool.and_eq_true]
    exact ⟨⟨⟨hnamed.2.1, hnamed.2.2.1⟩, hnamed.1⟩, hnamed.2.2.2⟩

/-- Declarations of different names make sense one after the other. -/
theorem allFit_of_distinct {done ds : List Declaration}
    (hdistinct : ((done ++ ds).map fun d => Text.lowerAscii d.name).Nodup)
    (hunreserved : ∀ d ∈ ds, Database.isReservedName d.name = false)
    (htables : ∀ t, .table t ∈ ds → isConsistent t = true ∧
      ∀ c ∈ t.columns, c.autoIncrement = true → c.affinity = .integer)
    (hindexes : indexesFit (done.filterMap (·.table?)) ds = true) : allFit done ds = true := by
  induction ds generalizing done with
  | nil => rfl
  | cons d ds ih =>
    have hnew : ∀ e ∈ done, Text.sameName e.name d.name = false := by
      intro e he
      rw [Bool.eq_false_iff, Ne, Text.sameName_iff]
      rw [List.map_append, List.nodup_append] at hdistinct
      exact hdistinct.2.2 _ (List.mem_map_of_mem he) _ (by simp)
    have hrest : indexesFit ((done ++ [d]).filterMap (·.table?)) ds = true →
        allFit (done ++ [d]) ds = true :=
      ih (by simpa using hdistinct) (fun e he => hunreserved e (List.mem_cons_of_mem d he))
        (fun t ht => htables t (List.mem_cons_of_mem d ht))
    rw [List.filterMap_append] at hrest
    have hfront : (∀ e ∈ done, Text.sameName e.name d.name = false) ∧
        Database.isReservedName d.name = false := ⟨hnew, hunreserved d List.mem_cons_self⟩
    cases d with
    | table t =>
      obtain ⟨hconsistent, hinteger⟩ := htables t List.mem_cons_self
      simp only [allFit, Declaration.fits, Bool.and_eq_true, List.all_eq_true, Bool.not_eq_true']
      refine ⟨⟨hfront, hconsistent, fun c hc => ?_⟩, hrest hindexes⟩
      cases hincrement : c.autoIncrement with
      | false => rfl
      | true => simp [hinteger c hc hincrement]
    | index i =>
      rw [indexesFit, Bool.and_eq_true] at hindexes
      have htables : [Declaration.index i].filterMap (·.table?) = [] := rfl
      rw [htables, List.append_nil] at hrest
      simp only [allFit, Declaration.fits, Bool.and_eq_true, List.all_eq_true, Bool.not_eq_true']
      exact ⟨⟨hfront, hindexes.1⟩, hrest hindexes.2⟩

theorem isInternalName_eq_false {name : String} (h : Database.isReservedName name = false) :
    isInternalName name = false := by
  rw [Bool.eq_false_iff] at h ⊢
  refine fun hinternal => h ?_
  obtain ⟨more, hmore⟩ := List.isPrefixOf_iff_prefix.1 hinternal
  rw [Database.isReservedName, Text.beginsWithName, List.isPrefixOf_iff_prefix, Text.foldedBytes,
    Text.foldedBytes, Text.bytes_eq_flatMap, Text.bytes_eq_flatMap, ← hmore, List.flatMap_append,
    List.map_append]
  exact List.prefix_append ..

/-- None of the printed tables is passed over. -/
theorem IsBuilt.ownTables_eq {s : Schema} (h : IsBuilt declarations s)
    (hunreserved : ∀ d ∈ declarations, Database.isReservedName d.name = false) :
    ownTables s = s.tables := by
  refine List.filter_eq_self.2 fun stored hmem => ?_
  obtain ⟨t, ht, hstored⟩ := exists_of_forall₂ h.tables hmem
  obtain ⟨d, hd, hd'⟩ := List.mem_filterMap.1 ht
  have hname : stored.name = d.name := by
    cases d with
    | table t' =>
      cases hd'
      exact (StoredTable.emptied_of_ofDefinition? hstored).2
    | index => cases hd'
  rw [hname, isInternalName_eq_false (hunreserved d hd)]
  rfl

/-- The columns of every printed table can be queried. -/
theorem IsBuilt.catalogColumns_eq {s : Schema} (h : IsBuilt declarations s)
    (hdistinct : s.relationKeys.Nodup)
    (hqueried : ∀ t ∈ declarations.filterMap (·.table?),
      Text.sameName t.name Database.columnQueryName = false) {stored : StoredTable}
    (hmem : stored ∈ s.tables) :
    Database.catalogColumns ⟨s, []⟩ stored.name = .ok stored.catalogColumns := by
  have hquery : Database.hasColumnQuery ⟨s, []⟩ = true := by
    have hmain : s.hasRelation Database.columnQueryName = false := by
      rw [Bool.eq_false_iff]
      intro htaken
      obtain ⟨t, ht, hsame⟩ := h.relation _ htaken
      rw [hqueried t ht] at hsame
      cases hsame
    simp only [Database.hasColumnQuery, hmain]
    rfl
  exact catalogColumns_of_findTable? hquery
    (Database.findTable?_main rfl (Schema.table?_of_mem hmem hdistinct))

/-- **Live extraction undoes printing.** The script of canonical declarations gives back the tables
that are declared, in their order. -/
theorem extractTables_live_script (h : IsCanonical declarations) :
    extractTables (script declarations) .live = .ok (tablesOf declarations) := by
  have htables : ∀ t, .table t ∈ declarations → isConsistent t = true ∧
      ∀ c ∈ t.columns, c.autoIncrement = true → c.affinity = .integer := fun t ht =>
    ⟨h.consistent t (List.mem_filterMap.2 ⟨_, ht, rfl⟩),
      fun c hc hincrement => ((h.columns ht).2 c hc hincrement).2⟩
  have hfit : allFit [] declarations = true :=
    allFit_of_distinct h.distinct h.unreserved htables h.indexes
  obtain ⟨s, hrun, hbuilt⟩ := runScript_script h.isReadable hfit
  refine extractTables_eq_ok_iff.2
    ⟨keepsLimits_script h.isReadable h.narrow h.short, by rw [hrun], ?_, h.valid⟩
  rw [hrun, hbuilt.ownTables_eq h.unreserved]
  refine List.forall₂_map_right_iff.2 (List.Forall₂.flip ?_)
  obtain ⟨hlength, hstored⟩ := List.forall₂_iff_zip.1 hbuilt.tables
  refine List.forall₂_iff_zip.2 ⟨hlength, fun {t stored} hzip => ?_⟩
  obtain ⟨d, hd, heq⟩ := List.mem_filterMap.1 (List.of_mem_zip hzip).1
  obtain rfl : d = .table t := by
    cases d with
    | table => exact congrArg Declaration.table (Option.some.inj heq)
    | index => cases heq
  obtain ⟨p, hp, hgapped⟩ := List.mem_map.1 ((map_gapped declarations).symm ▸ hd)
  obtain ⟨gap, d⟩ := p
  obtain rfl : d = .table t := hgapped
  have hreadable : ∀ p ∈ gapped declarations, p.2.isReadable = true := fun p hp =>
    h.isReadable p.2 (map_gapped declarations ▸ List.mem_map_of_mem hp)
  obtain ⟨rest, hread⟩ := isReadIn_declaration hreadable hp
  have hlex := lex_script h.isReadable
  rw [← scriptEnd] at hlex
  rw [← hlex] at hread
  have hdistinct : s.relationKeys.Nodup := by
    have := (Database.runScript_history (script declarations) 0 .main).2
    rwa [hrun] at this
  exact ⟨_, hbuilt.catalogColumns_eq hdistinct h.queried (List.of_mem_zip hzip).2,
    readTable_stored (h.isReadable _ hd) (htables t hd).2 (htables t hd).1 hread
      (definitionItems_table t gap rest) (hstored hzip)⟩

/-- Names that are types, parts of other names, or nearly the keyword. -/
def awkwardDeclarations : List Declaration :=
  [.table ⟨"TEXT", [⟨"autoincrement_", .integer, false, false, false⟩,
      ⟨"i", .integer, true, true, true⟩, ⟨"ii", .integer, false, false, false⟩,
      ⟨"INTEGER", .real, true, false, false⟩]⟩,
    .index ⟨"i", true, true, "text", ["II", "integer"]⟩,
    .table ⟨"_autoincrement", [⟨"i", .integer, false, true, false⟩, ⟨"text", .text, true, false, false⟩]⟩]

/-- The script of these declarations. -/
def awkwardScript : String :=
  "CREATE TABLE IF NOT EXISTS TEXT (\n  autoincrement_ INTEGER,\n" ++
    "  i INTEGER NOT NULL PRIMARY KEY AUTOINCREMENT,\n  ii INTEGER,\n" ++
    "  INTEGER REAL NOT NULL\n);\nCREATE UNIQUE INDEX IF NOT EXISTS i ON text(II, integer);\n" ++
    "CREATE TABLE IF NOT EXISTS _autoincrement (\n  i INTEGER PRIMARY KEY,\n" ++
    "  text TEXT NOT NULL\n);"

theorem extractTables_live_script_of_awkwardDeclarations :
    script awkwardDeclarations = awkwardScript ∧ IsCanonical awkwardDeclarations ∧
      extractTables awkwardScript .live = .ok
        [⟨"TEXT", [⟨"autoincrement_", .integer, false, false, true⟩, ⟨"i", .integer, true, true, false⟩,
          ⟨"ii", .integer, false, false, true⟩, ⟨"INTEGER", .real, false, false, false⟩]⟩,
        ⟨"_autoincrement", [⟨"i", .integer, true, false, false⟩, ⟨"text", .text, false, false, false⟩]⟩] := by
  have hscript : script awkwardDeclarations = awkwardScript := by
    decide +kernel
  have hshort : awkwardScript.utf8ByteSize ≤ longestText := by
    decide +kernel
  have hcanonical : IsCanonical awkwardDeclarations :=
    ⟨⟨by decide +kernel, by decide +kernel, by decide +kernel, by decide +kernel, by decide +kernel,
      by decide⟩, by decide +kernel, by decide +kernel, hscript ▸ hshort⟩
  exact ⟨hscript, hcanonical, hscript ▸ extractTables_live_script hcanonical⟩

/-- A table that has the name of the query for columns. -/
def queryNameDeclarations : List Declaration :=
  [.table ⟨"pragma_table_info", [⟨"name", .text, false, false, false⟩]⟩]

/-- **A table stands in the way of the query for columns** if it has its name: the script is accepted,
and nothing is extracted. -/
theorem extractTables_queryName :
    IsConsistent queryNameDeclarations ∧
      script queryNameDeclarations =
        "CREATE TABLE IF NOT EXISTS pragma_table_info (\n  name TEXT\n);" ∧
      (Database.empty.runScript 0 (script queryNameDeclarations)).failure = none ∧
      extractTables (script queryNameDeclarations) .live = .error (.database .invalid) := by
  have hscript : script queryNameDeclarations =
      "CREATE TABLE IF NOT EXISTS pragma_table_info (\n  name TEXT\n);" := by
    decide +kernel
  have hconsistent : IsConsistent queryNameDeclarations :=
    ⟨by decide +kernel, by decide +kernel, by decide +kernel, by decide +kernel, rfl, by decide⟩
  refine ⟨hconsistent, hscript, ?_, ?_⟩
  · rw [hscript, runScript_of_toList String.toList_ofList]
    decide +kernel
  · rw [hscript]
    exact extract_error_of_run String.toList_ofList (by decide +kernel)

end Scripts

end Catalog

end Tablewright
