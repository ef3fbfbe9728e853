import Tablewright.Proofs.Outline.Printing
import Tablewright.Proofs.Sql.DefinitionReading
import Tablewright.Proofs.Text.Lines

/-!
# Printed definitions and their lexemes

A script may be printed from tables and from indexes over their columns (`script`). Whatever names it
is printed with, it is cut into the lexemes of its declarations (`lex_script`), and each declaration
is read back as the statement that it is meant to be (`readStatement_declaration`).
-/

namespace Tablewright.Catalog

open Sql Grammar

open Outline (ColumnDeclaration TableDeclaration columnLines constraintText isPlainNameChar)

/-! ## Declarations -/

/-- An index over columns of a table. -/
structure IndexDeclaration where
  name : String
  isUnique : Bool
  ifNotExists : Bool
  table : String
  columns : List String
  deriving DecidableEq, Repr

/-- The line of an index. -/
def IndexDeclaration.line (i : IndexDeclaration) : String :=
  " ".intercalate (indexWords i.isUnique i.ifNotExists ++ [i.name, "ON", i.table]) ++
    "(" ++ ", ".intercalate i.columns ++ ");"

/-- What a script declares. -/
inductive Declaration
  | table (t : TableDeclaration)
  | index (i : IndexDeclaration)
  deriving DecidableEq, Repr

namespace Declaration

/-- The name of what is declared. -/
def name : Declaration → String
  | table t => t.name
  | index i => i.name

/-- The lines of a declaration. -/
def lines : Declaration → List String
  | table t => t.lines
  | index i => [i.line]

/-- The table that is declared. -/
def table? : Declaration → Option TableDeclaration
  | table t => some t
  | index _ => none

end Declaration

/-- A script: the lines of its declarations. -/
def script (declarations : List Declaration) : String :=
  "\n".intercalate (declarations.flatMap (·.lines))

/-- Whether a name is a word of ASCII letters, digits and underscores that does not begin with a
digit, and no keyword that means something else as a name. -/
def isCanonicalName (name : String) : Bool :=
  name.toList.all isPlainNameChar && name.toList.head?.any (!·.isDigit) && !isReserved name &&
    !isOperandWord name && !isKeyword "IF" (.word name)

/-- Whether the names of a declaration can be written as they are, a table has columns and an index
has some, and AUTOINCREMENT stands on primary keys only. -/
def Declaration.isReadable : Declaration → Bool
  | table t => isCanonicalName t.name && !t.columns.isEmpty &&
    t.columns.all fun c => isCanonicalName c.name && (!c.autoIncrement || c.primaryKey)
  | index i => isCanonicalName i.name && isCanonicalName i.table && !i.columns.isEmpty &&
    i.columns.all isCanonicalName

/-! ## Names -/

theorem isNameChar_ascii : ∀ n : Fin 128, isPlainNameChar (Char.ofNat n) = true →
    Sql.isNameChar (Char.ofNat n) = true ∧
      ((Char.ofNat n).isDigit = false → isNameStart (Char.ofNat n) = true) ∧
      isSpace (Char.ofNat n) = false := by
  decide

theorem facts_of_canonicalName {name : String} (h : isCanonicalName name = true) :
    isPlainName name = true ∧ isReserved name = false ∧ isOperandWord name = false ∧
      ∀ c ∈ name.toList, isPlainNameChar c = true := by
  simp only [isCanonicalName, Bool.and_eq_true, Bool.not_eq_true', List.all_eq_true] at h
  obtain ⟨⟨⟨⟨hplain, hfirst⟩, hreserved⟩, hoperand⟩, -⟩ := h
  refine ⟨?_, hreserved, hoperand, hplain⟩
  have hascii : ∀ c ∈ name.toList, Sql.isNameChar c = true ∧
      (c.isDigit = false → isNameStart c = true) ∧ isSpace c = false := by
    intro c hc
    have := isNameChar_ascii ⟨c.toNat, Outline.toNat_lt_of_isPlainNameChar (hplain c hc)⟩
    rw [Char.ofNat_toNat] at this
    exact this (hplain c hc)
  rw [isPlainName]
  cases hl : name.toList with
  | nil => rw [hl] at hfirst; cases hfirst
  | cons c cs =>
    rw [hl] at hfirst hascii
    obtain ⟨-, hstart, hspace⟩ := hascii c (by simp)
    have hdigit : c.isDigit = false := by simpa using hfirst
    have hrest : cs.all Sql.isNameChar = true :=
      List.all_eq_true.2 fun d hd => (hascii d (by simp [hd])).1
    simp [hstart hdigit, hspace, hrest]

theorem not_if_of_canonicalName {name : String} (h : isCanonicalName name = true) :
    isKeyword "IF" (.word name) = false := by
  simp only [isCanonicalName, Bool.and_eq_true, Bool.not_eq_true'] at h
  exact h.2

/-! ## Lexemes -/

/-- The lexemes of a column. -/
def columnLexemesOf (c : ColumnDeclaration) : List Lexeme :=
  columnLexemes c.name c.affinity (plainConstraintWords c.notNull c.primaryKey c.autoIncrement)

/-- The lexemes of names with commas between them. -/
def nameLexemes : List String → List Lexeme
  | [] => []
  | c :: others => wordAt [] c :: others.flatMap fun d => [markAt [] ',', wordAt [' '] d]

/-- The lexemes of an index. -/
def indexLexemes (gap : List Char) (i : IndexDeclaration) : List Lexeme :=
  wordAt gap "CREATE" ::
    (((indexWords i.isUnique i.ifNotExists).tail ++ [i.name, "ON", i.table]).map (wordAt [' ']) ++
      markAt [] '(' :: (nameLexemes i.columns ++ [markAt [] ')', markAt [] ';']))

/-- The lexemes of a declaration. -/
def Declaration.lexemes (gap : List Char) : Declaration → List Lexeme
  | table t => definitionLexemes gap t.name (t.columns.map columnLexemesOf)
  | index i => indexLexemes gap i

section Cuts

variable {cs rest : List Char} {ls : List Lexeme}

theorem cuts_words {words : List String} (hwords : ∀ w ∈ words, isPlainName w = true)
    (hends : endsName cs = true) (h : Cuts cs ls rest) :
    Cuts (words.flatMap (fun w => ' ' :: w.toList) ++ cs) (words.map (wordAt [' ']) ++ ls) rest ∧
      endsName (words.flatMap (fun w => ' ' :: w.toList) ++ cs) = true := by
  induction words with
  | nil => exact ⟨h, hends⟩
  | cons w words ih =>
    obtain ⟨hrest, hend⟩ := ih fun v hv => hwords v (List.mem_cons_of_mem w hv)
    rw [List.flatMap_cons, List.append_assoc, List.map_cons]
    exact ⟨Cuts.word [' '] rfl (hwords w List.mem_cons_self) hend hrest, rfl⟩

theorem toList_constraintText : ∀ notNull primaryKey autoIncrement,
    (constraintText notNull primaryKey autoIncrement).toList =
      (plainConstraintWords notNull primaryKey autoIncrement).flatMap fun w => ' ' :: w.toList := by
  simp only [Outline.chars_constraintText]
  decide +kernel

theorem isPlainName_words (affinity : Affinity) (notNull primaryKey autoIncrement : Bool) :
    ∀ w ∈ affinity.keyword :: plainConstraintWords notNull primaryKey autoIncrement,
      isPlainName w = true := by
  cases affinity <;> cases notNull <;> cases primaryKey <;> cases autoIncrement <;> decide

/-- The text of a column is cut into its lexemes. -/
theorem cuts_column {c : ColumnDeclaration} (hname : isPlainName c.name = true)
    (hends : endsName cs = true) (h : Cuts cs ls rest) :
    Cuts ('\n' :: (c.line.toList ++ cs)) (columnLexemesOf c ++ ls) rest := by
  have htext : c.line.toList = ' ' :: ' ' :: (c.name.toList ++ (c.affinity.keyword ::
      plainConstraintWords c.notNull c.primaryKey c.autoIncrement).flatMap
        fun w => ' ' :: w.toList) := by
    rw [List.flatMap_cons, ← toList_constraintText]
    simp [ColumnDeclaration.line]
  obtain ⟨hwords, hend⟩ := cuts_words (isPlainName_words c.affinity c.notNull c.primaryKey
    c.autoIncrement) hends h
  rw [htext]
  have := Cuts.word ['\n', ' ', ' '] rfl hname hend hwords
  simpa [columnLexemesOf, columnLexemes] using this

/-- The lines of columns are cut into their lexemes. -/
theorem cuts_columnLines {columns : List ColumnDeclaration} (hne : columns ≠ [])
    (hnames : ∀ c ∈ columns, isPlainName c.name = true) (hends : endsName cs = true)
    (h : Cuts cs ls rest) :
    Cuts ((columnLines columns).flatMap (fun line => '\n' :: line.toList) ++ cs)
      (List.intercalate [markAt [] ','] (columns.map columnLexemesOf) ++ ls) rest := by
  induction columns with
  | nil => exact absurd rfl hne
  | cons c columns ih =>
    have hc := hnames c List.mem_cons_self
    cases columns with
    | nil =>
      have := cuts_column hc hends h
      simpa [columnLines, List.intercalate_singleton] using this
    | cons d columns =>
      have hrest := ih (List.cons_ne_nil d columns) fun e he => hnames e (List.mem_cons_of_mem c he)
      have := cuts_column hc rfl (Cuts.mark [] (c := ',') rfl (by decide) hrest)
      simpa [columnLines, List.intercalate_cons_cons] using this

theorem toList_header (t : TableDeclaration) : t.header.toList =
    "CREATE".toList ++ (["TABLE", "IF", "NOT", "EXISTS", t.name].flatMap fun w => ' ' :: w.toList) ++
      [' ', '('] := by
  have hwords : "CREATE TABLE IF NOT EXISTS ".toList = "CREATE".toList ++
      (["TABLE", "IF", "NOT", "EXISTS"].flatMap fun w => ' ' :: w.toList) ++ [' '] := by
    decide
  rw [t.toList_header, hwords]
  simp

/-- The lines of a table are cut into its lexemes. -/
theorem cuts_table {t : TableDeclaration} (hne : t.columns ≠ []) (hname : isPlainName t.name = true)
    (hnames : ∀ c ∈ t.columns, isPlainName c.name = true) (h : Cuts cs ls rest) :
    Cuts (t.lines.flatMap (fun line => '\n' :: line.toList) ++ cs)
      (definitionLexemes ['\n'] t.name (t.columns.map columnLexemesOf) ++ ls) rest := by
  have hclosing := Cuts.mark ['\n'] (c := ')') rfl (by decide)
    (Cuts.mark [] (c := ';') rfl (by decide) h)
  have hcolumns := cuts_columnLines hne hnames rfl hclosing
  have hopening := Cuts.mark [' '] (c := '(') rfl (by decide) hcolumns
  have hheader : ∀ w ∈ ["TABLE", "IF", "NOT", "EXISTS", t.name], isPlainName w = true := by
    simp [hname]
    decide
  obtain ⟨hwords, hend⟩ := cuts_words hheader rfl hopening
  have hcreate : isPlainName "CREATE" = true := by decide
  have := Cuts.word ['\n'] rfl hcreate hend hwords
  have hend : ");".toList = [')', ';'] := by decide
  simpa [TableDeclaration.lines, toList_header, definitionLexemes, tableLexemes, itemLexemes, hend]
    using this

theorem cuts_names {columns : List String} (hne : columns ≠ [])
    (hnames : ∀ c ∈ columns, isPlainName c = true) (hends : endsName cs = true)
    (h : Cuts cs ls rest) :
    Cuts ((", ".intercalate columns).toList ++ cs) (nameLexemes columns ++ ls) rest := by
  obtain ⟨c, others, rfl⟩ := List.exists_cons_of_ne_nil hne
  have hothers : ∀ others : List String, (∀ d ∈ others, isPlainName d = true) →
      Cuts (others.flatMap (fun d => [',', ' '] ++ d.toList) ++ cs)
        (others.flatMap (fun d => [markAt [] ',', wordAt [' '] d]) ++ ls) rest ∧
      endsName (others.flatMap (fun d => [',', ' '] ++ d.toList) ++ cs) = true := by
    intro others hnames
    induction others with
    | nil => exact ⟨h, hends⟩
    | cons d others ih =>
      obtain ⟨hrest, hend⟩ := ih fun e he => hnames e (List.mem_cons_of_mem d he)
      have hword := Cuts.word [' '] rfl (hnames d List.mem_cons_self) hend hrest
      refine ⟨?_, rfl⟩
      simpa using Cuts.mark [] (c := ',') rfl (by decide) hword
  obtain ⟨hrest, hend⟩ := hothers others fun d hd => hnames d (List.mem_cons_of_mem c hd)
  have hword := Cuts.word [] rfl (hnames c List.mem_cons_self) hend hrest
  have htext : (", ".intercalate (c :: others)).toList =
      c.toList ++ others.flatMap fun d => [',', ' '] ++ d.toList := by
    have hcomma : ", ".toList = [',', ' '] := by decide
    rw [String.toList_intercalate, List.map_cons, Text.intercalate_cons, List.flatMap_map, hcomma]
  rw [htext, List.append_assoc]
  exact hword

theorem isPlainName_indexWords : ∀ isUnique ifNotExists,
    ∀ w ∈ (indexWords isUnique ifNotExists).tail, isPlainName w = true := by
  decide

/-- The line of an index is cut into its lexemes. -/
theorem cuts_index {i : IndexDeclaration} (hne : i.columns ≠ []) (hname : isPlainName i.name = true)
    (htable : isPlainName i.table = true) (hnames : ∀ c ∈ i.columns, isPlainName c = true)
    (h : Cuts cs ls rest) :
    Cuts ('\n' :: (i.line.toList ++ cs)) (indexLexemes ['\n'] i ++ ls) rest := by
  have hclosing := Cuts.mark [] (c := ')') rfl (by decide)
    (Cuts.mark [] (c := ';') rfl (by decide) h)
  have hcolumns := cuts_names hne hnames rfl hclosing
  have hopening := Cuts.mark [] (c := '(') rfl (by decide) hcolumns
  have hplain : ∀ w ∈ (indexWords i.isUnique i.ifNotExists).tail ++ [i.name, "ON", i.table],
      isPlainName w = true := by
    intro w hw
    simp only [List.mem_append, List.mem_cons, List.not_mem_nil, or_false] at hw
    rcases hw with hw | rfl | rfl | rfl
    · exact isPlainName_indexWords i.isUnique i.ifNotExists w hw
    · exact hname
    · decide
    · exact htable
  obtain ⟨hwords, hend⟩ := cuts_words hplain rfl hopening
  have hcreate : isPlainName "CREATE" = true := by decide
  have := Cuts.word ['\n'] rfl hcreate hend hwords
  have htext : i.line.toList = "CREATE".toList ++
      (((indexWords i.isUnique i.ifNotExists).tail ++ [i.name, "ON", i.table]).flatMap
        fun w => ' ' :: w.toList) ++ '(' :: ((", ".intercalate i.columns).toList ++ [')', ';']) := by
    have hspace : " ".toList = [' '] := by decide
    have hmarks : "(".toList = ['('] ∧ ");".toList = [')', ';'] := by decide
    have hwords : indexWords i.isUnique i.ifNotExists ++ [i.name, "ON", i.table] =
        "CREATE" :: ((indexWords i.isUnique i.ifNotExists).tail ++ [i.name, "ON", i.table]) := rfl
    rw [IndexDeclaration.line, hwords, String.toList_append, String.toList_append,
      String.toList_append, String.toList_intercalate, List.map_cons, Text.intercalate_cons,
      List.flatMap_map, hspace, hmarks.1, hmarks.2]
    simp
  rw [htext]
  simpa [indexLexemes] using this

/-- The lines of a declaration are cut into its lexemes. -/
theorem cuts_declaration {d : Declaration} (hd : d.isReadable = true) (h : Cuts cs ls rest) :
    Cuts (d.lines.flatMap (fun line => '\n' :: line.toList) ++ cs) (d.lexemes ['\n'] ++ ls) rest := by
  cases d with
  | table t =>
    simp only [Declaration.isReadable, Bool.and_eq_true, List.all_eq_true, Bool.not_eq_true',
      List.isEmpty_eq_false_iff] at hd
    exact cuts_table hd.1.2 (facts_of_canonicalName hd.1.1).1
      (fun c hc => (facts_of_canonicalName (hd.2 c hc).1).1) h
  | index i =>
    simp only [Declaration.isReadable, Bool.and_eq_true, List.all_eq_true, Bool.not_eq_true',
      List.isEmpty_eq_false_iff] at hd
    obtain ⟨⟨⟨hname, htable⟩, hne⟩, hcolumns⟩ := hd
    have := cuts_index hne (facts_of_canonicalName hname).1 (facts_of_canonicalName htable).1
      (fun c hc => (facts_of_canonicalName (hcolumns c hc)).1) h
    simpa [Declaration.lines, Declaration.lexemes] using this

/-- The lines of declarations are cut into their lexemes. -/
theorem cuts_declarations {ds : List Declaration} (hds : ∀ d ∈ ds, d.isReadable = true) :
    Cuts ((ds.flatMap (·.lines)).flatMap fun line => '\n' :: line.toList)
      (ds.flatMap (·.lexemes ['\n'])) [] := by
  induction ds with
  | nil => exact .nil
  | cons d ds ih =>
    rw [List.flatMap_cons, List.flatMap_append, List.flatMap_cons]
    exact cuts_declaration (hds d List.mem_cons_self) (ih fun e he => hds e (List.mem_cons_of_mem d he))

/-- The first declaration begins without a gap. -/
theorem cuts_of_newline {d : Declaration} (h : Cuts ('\n' :: cs) (d.lexemes ['\n'] ++ ls) rest) :
    Cuts cs (d.lexemes [] ++ ls) rest := by
  have hfirst : ∃ others, ∀ gap, d.lexemes gap ++ ls = wordAt gap "CREATE" :: others := by
    cases d <;> exact ⟨_, fun _ => rfl⟩
  obtain ⟨others, heq⟩ := hfirst
  rw [heq] at h ⊢
  generalize hcs : '\n' :: cs = whole at h
  cases h with
  | cons hgap htoken hfinish hne hnul h =>
    rw [wordAt, List.cons_append, List.nil_append, List.cons.injEq] at hcs
    obtain ⟨-, rfl⟩ := hcs
    refine Cuts.cons (l := wordAt [] "CREATE") ?_ htoken hfinish hne (by decide) h
    rw [wordAt, List.cons_append, List.nil_append, afterGap_cons_of_isSpace (by decide)] at hgap
    exact hgap

end Cuts

/-- The declarations of a script with the gaps in front of them. -/
def gapped : List Declaration → List (List Char × Declaration)
  | [] => []
  | d :: ds => ([], d) :: ds.map fun e => (['\n'], e)

/-- The lexemes of declarations with the gaps in front of them. -/
def gappedLexemes (ps : List (List Char × Declaration)) : List Lexeme :=
  ps.flatMap fun p => p.2.lexemes p.1

/-- **The lexemes of a printed script** are those of its declarations. -/
theorem lex_script {declarations : List Declaration}
    (h : ∀ d ∈ declarations, d.isReadable = true) :
    lex (script declarations) = gappedLexemes (gapped declarations) ++ [⟨[], [], .finish⟩] := by
  cases declarations with
  | nil => decide
  | cons d ds =>
    have hne : (d :: ds).flatMap (·.lines) ≠ [] := by
      cases d <;> simp [Declaration.lines, TableDeclaration.lines]
    have hcuts := cuts_declarations h
    rw [← Text.toList_intercalate_lines hne] at hcuts
    have hlexemes : gappedLexemes (gapped (d :: ds)) =
        d.lexemes [] ++ ds.flatMap (·.lexemes ['\n']) := by
      rw [gapped, gappedLexemes, List.flatMap_cons, List.flatMap_map]
    rw [hlexemes]
    exact (cuts_of_newline hcuts).lex rfl (by simp)

/-! ## Statements -/

/-- The definition of a column. -/
def columnDefinitionOf (c : ColumnDeclaration) : ColumnDefinition :=
  ⟨c.name, c.affinity.keyword, plainConstraints c.notNull c.primaryKey c.autoIncrement⟩

/-- The definition of a table. -/
def definitionOf (t : TableDeclaration) : TableDefinition :=
  plainDefinition t.name (t.columns.map fun c => (columnLexemesOf c, columnDefinitionOf c))

/-- The statement of a declaration. -/
def Declaration.statement : Declaration → Statement
  | table t => .createTable (definitionOf t)
  | index i =>
    .createIndex ⟨⟨none, i.name⟩, i.isUnique, i.ifNotExists, i.table, columnTerms i.columns⟩

variable {gap : List Char} {rest : List Lexeme}

theorem reads_table {t : TableDeclaration} (ht : (Declaration.table t).isReadable = true) :
    Reads statement (definitionLexemes gap t.name (t.columns.map columnLexemesOf) ++ rest)
      (.createTable (definitionOf t)) rest := by
  simp only [Declaration.isReadable, Bool.and_eq_true, List.all_eq_true, Bool.not_eq_true',
    List.isEmpty_eq_false_iff, Bool.or_eq_true] at ht
  obtain ⟨⟨hname, hne⟩, hcolumns⟩ := ht
  have hkey : ∀ c ∈ t.columns, c.autoIncrement = true → c.primaryKey = true := by
    intro c hc hincrement
    rcases (hcolumns c hc).2 with h | h
    · rw [hincrement] at h
      cases h
    · exact h
  have hlexemes : t.columns.map columnLexemesOf =
      (t.columns.map fun c => (columnLexemesOf c, columnDefinitionOf c)).map (·.1) := by
    rw [List.map_map]
    rfl
  rw [hlexemes]
  refine reads_createTable (facts_of_canonicalName hname).2.1 (not_if_of_canonicalName hname)
    (by simpa using hne) ?_ ?_
  · intro p hp rest hrest
    obtain ⟨c, hc, rfl⟩ := List.mem_map.1 hp
    exact reads_columnDefinition c.affinity (facts_of_canonicalName (hcolumns c hc).1).2.1
      (hkey c hc) hrest
  · intro p hp
    obtain ⟨c, hc, rfl⟩ := List.mem_map.1 hp
    exact ⟨_, c.name, _, rfl, (facts_of_canonicalName (hcolumns c hc).1).2.1⟩

theorem tokens_nameLexemes (columns : List String) : (nameLexemes columns).map (·.token) =
    separated (columns.map fun c => [.word c]) := by
  cases columns with
  | nil => rfl
  | cons c others =>
    rw [separated, List.map_cons, Text.intercalate_cons, nameLexemes, List.map_cons, List.map_flatMap,
      List.flatMap_map]
    rfl

theorem reads_index {i : IndexDeclaration} (hi : (Declaration.index i).isReadable = true) :
    Reads statement (indexLexemes gap i ++ rest) (Declaration.index i).statement rest := by
  simp only [Declaration.isReadable, Bool.and_eq_true, List.all_eq_true, Bool.not_eq_true',
    List.isEmpty_eq_false_iff] at hi
  obtain ⟨⟨⟨hname, htable⟩, hne⟩, hcolumns⟩ := hi
  refine Takes.reads ?_ accounts_statement (List.suffix_append ..)
  have htokens : (indexLexemes gap i ++ rest).map (·.token) =
      indexTokens i.isUnique i.ifNotExists i.name i.table i.columns ++ rest.map (·.token) := by
    have hword : (fun l : Lexeme => l.token) ∘ wordAt [' '] = .word := rfl
    simp [indexLexemes, indexTokens, indexWords, tokens_nameLexemes, wordAt, markAt, hword]
  rw [htokens]
  exact takes_createIndex _ _ (facts_of_canonicalName hname).2.1 (not_if_of_canonicalName hname)
    (facts_of_canonicalName htable).2.1 hne fun c hc => ⟨(facts_of_canonicalName (hcolumns c hc)).2.1,
      (facts_of_canonicalName (hcolumns c hc)).2.2.1⟩

/-- **A declaration is read back** as its statement. -/
theorem readStatement_declaration {d : Declaration} (hd : d.isReadable = true) :
    readStatement (d.lexemes gap ++ rest) = .ok (some (d.statement, rest)) := by
  have hrun : Reads statement (d.lexemes gap ++ rest) d.statement rest := by
    cases d with
    | table t => exact reads_table hd
    | index i => exact reads_index hd
  obtain ⟨others, heq⟩ : ∃ others, d.lexemes gap ++ rest = wordAt gap "CREATE" :: others := by
    cases d <;> exact ⟨_, rfl⟩
  have hdrop : dropEmptyStatements (d.lexemes gap ++ rest) = d.lexemes gap ++ rest := by
    rw [heq, dropEmptyStatements, if_neg (by simp [wordAt])]
  have hfront : front (d.lexemes gap ++ rest) ≠ .finish := by
    rw [heq]
    simp [front, wordAt]
  have hstatement : statement.run (d.lexemes gap ++ rest) = some (d.statement, rest) := hrun
  rw [readStatement, hdrop, if_neg hfront, hstatement]

end Tablewright.Catalog
