import Tablewright.Proofs.Extraction.ColumnLines

/-!
# Where both strategies agree

A script is laid out in lines (`IsLayout`) if every table definition in it has a header line, one line
for each of its columns, and a closing line. A scan opens and closes a table for each of them
(`eq_tables_of_scan`), and an engine that accepts the script keeps each of them in its catalog, column
by column (`Keeps`). So both strategies find the same tables (`extractTables_agree`), if the names of
the tables are different and the lines are plain: name and type of a column are bare words, and NOT
NULL, PRIMARY KEY and AUTOINCREMENT stand in no comment, string, name or parentheses (`IsOpenLine`).
Other lines are read in different ways (`extractTables_disagree`).
-/

namespace Tablewright

/-! ## Open lines -/

namespace Sql

open Outline

/-- The phrases that make a flag of a column. -/
def flagPhrases : List (List String) :=
  [["not", "null"], ["primary", "key"], ["autoincrement"]]

/-- The words that constraints on a column begin with. -/
def constraintWords : List String :=
  ["CONSTRAINT", "PRIMARY", "NOT", "NULL", "UNIQUE", "CHECK", "DEFAULT", "COLLATE", "REFERENCES",
    "DEFERRABLE"]

/-- Whether a type ends in front of lexemes. -/
def endsType (ls : List Lexeme) : Bool :=
  match Grammar.front ls with
  | .finish => true
  | .symbol s => s = ","
  | token => constraintWords.any (Grammar.isKeyword · token)

/-- A line is the plain definition of a column. -/
structure IsOpenLine (line : String) (n t : Lexeme) (constraints : List Lexeme) : Prop where
  lexemes : lex line = n :: t :: constraints
  noNul : '\x00' ∉ line.toList
  bareName : n.isBare = true
  /-- The type is one bare word. -/
  bareType : t.isBare = true
  oneWord : endsType constraints = true
  isColumn : ∃ parts, Line.classify line = .column parts
  /-- The column is not generated. -/
  notGenerated : statesFrom ["as"] 0 constraints = false
  phrases : ∀ ks ∈ flagPhrases, isOpenFrom ks 0 none (n :: t :: constraints) = true
  /-- No comma stands in front of AUTOINCREMENT. -/
  noComma : statesFrom ["autoincrement"] 0 constraints = true →
    ∃ between k, between ++ [k] <+: t :: constraints ∧ k.isIncrement = true ∧
      Catalog.separates (textOf between ++ k.gap) = true

/-- Whether a lexeme is a word that is never a plain name. -/
def Lexeme.isReserved (l : Lexeme) : Bool :=
  match l.token with
  | .word w => Sql.isReserved w
  | _ => false

/-- What every engine tells of a column that is defined by a bare name, a type of one word, and
constraints. -/
structure IsTold (n t : Lexeme) (constraints : List Lexeme) (c : CatalogColumn) : Prop where
  name : n.token = .word c.name
  declaredType : ∃ w, t.token = .word w ∧ Text.sameName c.declaredType w = true
  /-- Bare names are no keywords. -/
  notReserved : ∀ l ∈ [n, t], l.isReserved = false
  isPrimaryKey : c.isPrimaryKey = statesFrom ["primary", "key"] 0 constraints
  /-- The columns of a key need not be declared to accept no NULL. -/
  isNotNull : c.isPrimaryKey = false → c.isNotNull = statesFrom ["not", "null"] 0 constraints
  increment : statesFrom ["autoincrement"] 0 constraints = true →
    c.isPrimaryKey = true ∧ Text.sameName c.declaredType "INTEGER" = true

variable {line : String} {n t : Lexeme} {cs : List Lexeme} {c : CatalogColumn} {ks : List String}

theorem isPlainKeyword_flagPhrases : ∀ ks ∈ flagPhrases, ∀ k ∈ ks, IsPlainKeyword k := by
  have hall : ∀ ks ∈ flagPhrases, ∀ k ∈ ks, k.toList.map Char.toLower = k.toList ∧ k.toList ≠ [] ∧
      k.toList.all isPlainNameChar = true := by
    decide
  exact fun ks hks k hk =>
    .of_toList (hall ks hks k hk).1 (hall ks hks k hk).2.1 (hall ks hks k hk).2.2

theorem isReserved_flagPhrases : ∀ ks ∈ flagPhrases, ∃ k others, ks = k :: others ∧
    isReserved k = true := by
  intro ks hks
  simp only [flagPhrases, List.mem_cons, List.not_mem_nil, or_false] at hks
  rcases hks with rfl | rfl | rfl <;> exact ⟨_, _, rfl, by decide⟩

theorem isReserved_of_sameName {a b : String} (h : Text.sameName a b = true) :
    isReserved a = isReserved b := by
  have hsame : ∀ w, Text.sameName a w = Text.sameName b w := fun w => by
    rw [Bool.eq_iff_iff, Text.sameName_iff, Text.sameName_iff, Text.sameName_iff.1 h]
  have heq : Text.sameName a = Text.sameName b := funext hsame
  rw [isReserved, isReserved, heq]

/-- Name and type of a column state nothing. -/
theorem statesFrom_constraints (hopen : IsOpenLine line n t cs) (htold : IsTold n t cs c)
    (hks : ks ∈ flagPhrases) : statesFrom ks 0 (n :: t :: cs) = statesFrom ks 0 cs := by
  obtain ⟨k, others, rfl, hk⟩ := isReserved_flagPhrases ks hks
  have hword : ∀ l ∈ [n, t], l.isBare = true → ∀ rest, Grammar.beginWith (k :: others) (l :: rest) = false ∧
      depthBehind 0 l = 0 := by
    intro l hl hbare rest
    have hreserved := htold.notReserved l hl
    obtain ⟨gap, text, token⟩ := l
    cases token with
    | word w =>
      refine ⟨?_, rfl⟩
      rw [Grammar.beginWith, Bool.and_eq_false_iff]
      refine .inl (Bool.eq_false_iff.2 fun hkeyword => ?_)
      have hsame : Text.sameName w k = true := hkeyword
      rw [← isReserved_of_sameName hsame] at hk
      exact Bool.false_ne_true (hreserved.symm.trans hk)
    | _ => cases hbare
  obtain ⟨hname, hnameDepth⟩ := hword n (by simp) hopen.bareName (t :: cs)
  obtain ⟨htype, htypeDepth⟩ := hword t (by simp) hopen.bareType cs
  rw [statesFrom, hname, hnameDepth, statesFrom, htype, htypeDepth]
  simp

/-- **A flag is found in a line exactly if its constraints state it.** -/
theorem contains_line (hopen : IsOpenLine line n t cs) (htold : IsTold n t cs c)
    (hks : ks ∈ flagPhrases) : contains ks none line.toList = statesFrom ks 0 cs := by
  obtain ⟨k, others, rfl, -⟩ := isReserved_flagPhrases ks hks
  have hlex : lex line = [] ++ (n :: t :: cs) := hopen.lexemes
  rw [toList_eq_textOf hopen.noNul, hopen.lexemes,
    contains_eq_statesFrom (List.cons_ne_nil _ _) (isPlainKeyword_flagPhrases _ hks) hlex
      (hopen.phrases _ hks),
    statesFrom_constraints hopen htold hks]

/-- **A flag is found in the constraints of a line exactly if they state it.** -/
theorem contains_constraints (hopen : IsOpenLine line n t cs) (hends : wordEnds (textOf cs) = true)
    (hks : ks ∈ flagPhrases) : contains ks none (textOf cs) = statesFrom ks 0 cs := by
  obtain ⟨k, others, rfl, -⟩ := isReserved_flagPhrases ks hks
  have hplain := isPlainKeyword_flagPhrases _ hks
  have hdepth : ∀ l : Lexeme, l.isBare = true → depthBehind 0 l = 0 := by
    rintro ⟨gap, text, token⟩ hbare
    cases token <;> first | rfl | cases hbare
  have hrest := hopen.phrases _ hks
  simp only [isOpenFrom, Bool.and_eq_true, hdepth n hopen.bareName, hdepth t hopen.bareType] at hrest
  have hlex : lex line = [n, t] ++ cs := hopen.lexemes
  have hopenRest := contains_eq_statesFrom (List.cons_ne_nil _ _) hplain hlex hrest.2.2
  obtain ⟨d, chars, heq⟩ := List.exists_cons_of_ne_nil
    (by simpa using (hplain k List.mem_cons_self).nonempty : k.toList ≠ [])
  have hd : isPlainNameChar d = true := (hplain k List.mem_cons_self).plain d (by simp [heq])
  cases hlast : t.text.getLast?.or (t.gap.getLast?.or (n.text.getLast?.or (n.gap.getLast?.or none))) with
  | none => rwa [hlast] at hopenRest
  | some a =>
    rw [hlast, contains_of_wordEnds heq hd hends] at hopenRest
    exact hopenRest

end Sql

namespace Catalog

open Sql Text

open Outline (Block IsLayout)

/-! ## What an engine keeps -/

/-- The first line of a definition in the catalog: `CREATE TABLE`, the name and the parenthesis. -/
def BeginsDefinition (name line : String) : Prop :=
  ∃ gap trail, line.toList = "CREATE TABLE ".toList ++ (name.toList ++ (gap ++ '(' :: trail)) ∧
    gap.all isBlank = true ∧ trail.all isBlank = true

/-- The last line of a definition in the catalog: the closing line up to its last word or mark. -/
def EndsDefinition (closing line : String) : Prop :=
  ∃ rest, closing.toList = line.toList ++ rest ∧ Outline.wordEnds rest = true

/-- The text of a definition in the catalog, as its lines. -/
def IsTextOf (b : Block) (definition : String) : Prop :=
  ∃ first last, lines definition = first :: (b.columns ++ [last]) ∧ BeginsDefinition b.name first ∧
    EndsDefinition b.closing last

/-- What every engine keeps in its catalog of tables that are laid out in lines. -/
structure Keeps (e : Engine) (store : e.Store) (entries : List CatalogEntry) (blocks : List Block) :
    Prop where
  /-- If their names differ, then each table has its entry. -/
  entries : (blocks.map fun b => lowerAscii b.name).Nodup →
    List.Forall₂ (fun b entry => entry.name = b.name ∧
      ∃ definition, entry.definition = some definition ∧ IsTextOf b definition)
      blocks (ownEntries entries)
  /-- If none of them has the name of the query for columns, then it tells of each column line, and of
  one key at most. -/
  columns : (∀ b ∈ blocks, sameName b.name Database.columnQueryName = false) → ∀ b ∈ blocks,
    ∃ columns, e.columns store b.name = .ok columns ∧
      List.Forall₂ (fun line c => ∀ n t cs, IsOpenLine line n t cs → IsTold n t cs c)
        b.columns columns ∧
      columns.Pairwise fun c d => ¬(c.isPrimaryKey = true ∧ d.isPrimaryKey = true)

/-- All columns of a table stand in open lines, and AUTOINCREMENT is not found behind them. -/
structure IsOpen (b : Block) : Prop where
  columns : ∀ line ∈ b.columns, ∃ n t cs, IsOpenLine line n t cs
  closing : Outline.contains ["autoincrement"] none b.closing.toList = false

/-! ## The text of a definition -/

section Texts

variable {b : Block} {definition : String}

theorem isWordChar_of_isNameChar {c : Char} (h : Outline.isNameChar c = true) :
    isWordChar c = true := by
  rw [Outline.isNameChar, Bool.or_eq_true] at h
  rcases h with h | h
  · refine Outline.isWordChar_of_foldCase ?_
    rw [Outline.isPlainNameChar, h]
    rfl
  · rw [beq_iff_eq.1 h]
    decide

theorem nameBegins_of_blank {gap : List Char} (h : gap.all isBlank = true) : nameBegins gap = true := by
  rw [nameBegins]
  cases hlast : gap.getLast? with
  | none => rfl
  | some c =>
    have hblank := List.all_eq_true.1 h c (List.mem_of_getLast? hlast)
    rw [Option.all_some, Bool.not_eq_true', Bool.eq_false_iff]
    intro hname
    have hword := isWordChar_of_isNameChar hname
    rw [Outline.not_isWordChar_of_isBlank hblank] at hword
    cases hword

theorem afterParenthesis_append {front : List Char} (h : '(' ∉ front) (rest : List Char) :
    afterParenthesis (front ++ '(' :: rest) = rest := by
  have hall : ∀ c ∈ front, (c != '(') = true := by
    intro c hc
    rw [bne_iff_ne]
    rintro rfl
    exact h hc
  rw [afterParenthesis, List.dropWhile_append_of_pos hall]
  rfl

/-- The body of a definition is white space and the lines of the columns. -/
theorem exists_body (hname : '(' ∉ b.name.toList) (h : IsTextOf b definition) :
    ∃ trail, trail.all isBlank = true ∧ ∃ ending ∈ lineEndings, ∃ rest last,
      definitionBody (some definition) = trail ++ (ending ++ rest) ∧ (ending = [] → rest = []) ∧
      splitLines rest = b.columns.map String.toList ++ [last] ∧
      ∃ behind, b.closing.toList = last ++ behind ∧ Outline.wordEnds behind = true := by
  obtain ⟨first, last, hlines, ⟨gap, trail, hfirst, hgap, htrail⟩, behind, hclosing, hends⟩ := h
  have hsplit : splitLines definition.toList =
      first.toList :: (b.columns.map String.toList ++ [last.toList]) := by
    have := congrArg (List.map String.toList) hlines
    rw [lines, List.map_map] at this
    simpa [Function.comp_def] using this
  obtain ⟨ending, hending, rest, hdefinition, hrest, hempty⟩ := exists_of_splitLines_cons hsplit
  refine ⟨trail, htrail, ending, hending, rest, last.toList, ?_, hempty, hrest, behind, hclosing,
    hends⟩
  have hfront : '(' ∉ "CREATE TABLE ".toList ++ (b.name.toList ++ gap) := by
    rw [List.mem_append, List.mem_append, not_or, not_or]
    exact ⟨by decide, hname, fun hmem => absurd (List.all_eq_true.1 hgap _ hmem) (by decide)⟩
  rw [definitionBody, Option.getD_some, hdefinition, hfirst]
  simpa using afterParenthesis_append hfront (trail ++ (ending ++ rest))

/-- A keyword that is found in the text of a definition stands in the line of a column. -/
theorem exists_line_of_declares {column : String} (hname : '(' ∉ b.name.toList)
    (h : IsTextOf b definition)
    (hclosing : Outline.contains ["autoincrement"] none b.closing.toList = false)
    (hfound : declaresAutoIncrement (definitionBody (some definition)) column = true) :
    ∃ line ∈ b.columns, Outline.contains ["autoincrement"] none line.toList = true := by
  obtain ⟨trail, htrail, ending, hending, rest, last, hbody, -, hrest, behind, hlast, hends⟩ :=
    exists_body hname h
  have hk := isPlainKeyword_autoincrement
  have hne : "autoincrement".toList ≠ [] := by simp
  have hword : ∀ c ∈ trail, isWordChar c = false := fun c hc =>
    Outline.not_isWordChar_of_isBlank (List.all_eq_true.1 htrail c hc)
  rw [declaresAutoIncrement, hbody] at hfound
  have hcontains := contains_of_declaresIncrement none hfound
  rw [Outline.contains_append_eq, Outline.beginsIn_eq_false hk.plain hne hword, Bool.false_or,
    Outline.contains_append_eq,
    Outline.beginsIn_eq_false hk.plain hne (Outline.not_isWordChar_ending ending hending),
    Bool.false_or] at hcontains
  obtain ⟨line, hline, hfound⟩ := Outline.exists_line_of_contains hk.plain hne hcontains
  rw [hrest, List.mem_append, List.mem_map, List.mem_singleton] at hline
  rcases hline with ⟨line, hline, rfl⟩ | rfl
  · exact ⟨line, hline, hfound⟩
  · rw [hlast, Outline.contains_append (by decide) hfound hends] at hclosing
    cases hclosing

/-- A keyword in the line of a column is found for the column. -/
theorem declares_of_line {line : String} {n t : Lexeme} {cs : List Lexeme} {c : CatalogColumn}
    (hname : '(' ∉ b.name.toList) (h : IsTextOf b definition) (hline : line ∈ b.columns)
    (hopen : IsOpenLine line n t cs) (htold : IsTold n t cs c) (hgap : n.gap.all isBlank = true)
    (hstates : statesFrom ["autoincrement"] 0 cs = true) :
    declaresAutoIncrement (definitionBody (some definition)) c.name = true := by
  obtain ⟨trail, htrail, ending, hending, rest, last, hbody, hempty, hrest, -⟩ := exists_body hname h
  obtain ⟨between, k, hprefix, hk, hseparates⟩ := hopen.noComma hstates
  have hmem : line.toList ∈ splitLines rest := by
    rw [hrest]
    exact List.mem_append_left _ (List.mem_map_of_mem hline)
  obtain ⟨front, ending', hending', rest', hsplit, hfront, hempty'⟩ := exists_of_mem_splitLines hmem
  have hbegins : nameBegins (trail ++ (ending ++ front)) = true := by
    rw [nameBegins, List.getLast?_append, List.getLast?_append]
    rcases hfront with rfl | hfront
    · have hne : ending ≠ [] := by
        rintro rfl
        rw [hempty rfl] at hmem
        cases hmem
      simp only [lineEndings, List.mem_cons, List.not_mem_nil, or_false] at hending
      rcases hending with rfl | rfl | rfl
      · exact absurd rfl hne
      · rfl
      · rfl
    · rw [hfront]
      rfl
  have htext : definitionBody (some definition) =
      (trail ++ (ending ++ front)) ++ (textOf (lex line) ++ (ending' ++ rest')) := by
    rw [hbody, hsplit, toList_eq_textOf hopen.noNul]
    simp
  rw [htext]
  refine declaresAutoIncrement_of_marks hbegins (fun before k after hitems hk => ?_) ?_
  · obtain ⟨hword, hcomma, hends⟩ := Lexeme.text_of_isIncrement hitems hk
    exact ⟨hword, hcomma, Outline.wordEnds_append hends (Outline.wordEnds_ending hending' hempty')⟩
  · have hwritten : n.text = c.name.toList := by
      have hlex : lex line = [] ++ n :: t :: cs := hopen.lexemes
      have htaken := isTaken_of_lex hlex (by simp [htold.name])
      rw [htold.name] at htaken
      exact htaken.1
    refine ⟨[], n, between, k, ?_, ⟨([], []), by decide, c.name.toList, by simp [hwritten], rfl⟩, ?_,
      hk, hseparates⟩
    · rw [hopen.lexemes]
      simpa using hprefix
    · exact nameBegins_of_blank hgap

end Texts

/-! ## Tables -/

section Tables

variable {b : Block} {definition : String}

/-- What is read in an open line is what the catalog tells of its column. -/
theorem parts_of_readColumn {table line : String} {n t : Lexeme} {cs : List Lexeme}
    {c : CatalogColumn} {parts : Outline.ColumnLine} {column : Column}
    (hopen : IsOpenLine line n t cs) (htold : IsTold n t cs c)
    (hclass : Outline.Line.classify line = .column parts)
    (hread : Outline.readColumn table parts = .ok column) :
    n.gap.all isBlank = true ∧ parts.name = c.name ∧ parts.constraints.toList = textOf cs ∧
      Outline.wordEnds (textOf cs) = true ∧ ∃ affinity,
        Affinity.ofText parts.declaredType = .ok affinity ∧
          Affinity.ofText c.declaredType = .ok affinity := by
  rw [Outline.readColumn] at hread
  cases haffinity : Affinity.ofText parts.declaredType with
  | error e => simp [haffinity] at hread
  | ok affinity =>
    obtain ⟨hgap, hname, htype, hconstraints, hends⟩ := parts_of_lexemes hopen.lexemes hopen.bareName
      hopen.bareType hopen.noNul hclass haffinity
    have hfront : lex line = [] ++ n :: t :: cs := hopen.lexemes
    have hbehind : lex line = [n] ++ t :: cs := hopen.lexemes
    obtain ⟨hnameToken, -⟩ := Lexeme.text_of_isBare hopen.bareName hfront
    obtain ⟨htypeToken, -, hplain, -⟩ := Lexeme.text_of_isBare hopen.bareType hbehind
    have hcolumnName : parts.name = c.name := by
      rw [htold.name] at hnameToken
      rw [Token.word.inj hnameToken, ← String.toList_inj, hname, String.toList_ofList]
    obtain ⟨w, hw, hsame⟩ := htold.declaredType
    have hword : parts.declaredType = w := by
      rw [hw] at htypeToken
      rw [Token.word.inj htypeToken, ← String.toList_inj, htype, String.toList_ofList]
    have hdeclared : Affinity.ofText c.declaredType = .ok affinity := by
      refine Outline.ofText_of_sameName (b := parts.declaredType) ?_ ?_ haffinity
      · rwa [htype]
      · rwa [hword]
    exact ⟨hgap, hcolumnName, hconstraints, hends, affinity, rfl, hdeclared⟩

/-- A column that a line tells of, up to its flags. -/
theorem readColumn_of_isTold {table line : String} {n t : Lexeme} {cs : List Lexeme}
    {c : CatalogColumn} {parts : Outline.ColumnLine} {column : Column} {body : List Char}
    (hopen : IsOpenLine line n t cs) (htold : IsTold n t cs c)
    (hclass : Outline.Line.classify line = .column parts)
    (hread : Outline.readColumn table parts = .ok column)
    (hincrement : (c.isPrimaryKey = true ∧ Affinity.ofText c.declaredType = .ok .integer ∧
      declaresAutoIncrement body c.name = true) ↔ statesFrom ["autoincrement"] 0 cs = true) :
    readColumn table body c = .ok column := by
  obtain ⟨-, hname, hconstraints, hends, affinity, haffinity, hdeclared⟩ :=
    parts_of_readColumn hopen htold hclass hread
  rw [Outline.readColumn] at hread
  simp only [haffinity, hconstraints] at hread
  cases hread
  rw [readColumn_eq_ok_iff]
  refine ⟨affinity, hdeclared, ?_⟩
  have hflags : ∀ ks ∈ flagPhrases, Outline.contains ks none (textOf cs) = statesFrom ks 0 cs :=
    fun ks hks => contains_constraints hopen hends hks
  have hflag : statesFrom ["autoincrement"] 0 cs =
      (c.isPrimaryKey && affinity = .integer && declaresAutoIncrement body c.name) := by
    rw [Bool.eq_iff_iff, ← hincrement, hdeclared]
    simp [and_assoc]
  rw [hflags _ (by simp [flagPhrases]), hflags _ (by simp [flagPhrases]),
    hflags _ (by simp [flagPhrases]), hname, ← htold.isPrimaryKey, ← hflag]
  cases hkey : c.isPrimaryKey with
  | true => simp [Column.declare]
  | false => rw [htold.isNotNull hkey]

/-- AUTOINCREMENT that is found in a table stands in the line of its key. -/
theorem statesFrom_of_declares {columns : List CatalogColumn} {column : String} {i : Nat}
    {n t : Lexeme} {cs : List Lexeme} (hname : '(' ∉ b.name.toList) (htext : IsTextOf b definition)
    (hopen : IsOpen b)
    (htold : List.Forall₂ (fun line c => ∀ n t cs, IsOpenLine line n t cs → IsTold n t cs c)
      b.columns columns)
    (hkeys : columns.Pairwise fun c d => ¬(c.isPrimaryKey = true ∧ d.isPrimaryKey = true))
    (hline : i < b.columns.length) (hi : i < columns.length)
    (hopenLine : IsOpenLine b.columns[i] n t cs) (hkey : columns[i].isPrimaryKey = true)
    (hfound : declaresAutoIncrement (definitionBody (some definition)) column = true) :
    statesFrom ["autoincrement"] 0 cs = true := by
  obtain ⟨line, hmem, hfound⟩ := exists_line_of_declares hname htext hopen.closing hfound
  obtain ⟨j, hj, rfl⟩ := List.getElem_of_mem hmem
  obtain ⟨n', t', cs', hopenLine'⟩ := hopen.columns _ hmem
  obtain ⟨hlength, htold⟩ := List.forall₂_iff_get.1 htold
  have hj' : j < columns.length := hlength ▸ hj
  have htoldLine' := htold j hj hj' n' t' cs' hopenLine'
  rw [contains_line hopenLine' htoldLine' (by simp [flagPhrases])] at hfound
  have hkey' := (htoldLine'.increment hfound).1
  obtain rfl : i = j := by
    rw [List.pairwise_iff_getElem] at hkeys
    rcases Nat.lt_trichotomy i j with hlt | rfl | hlt
    · exact absurd ⟨hkey, hkey'⟩ (hkeys i j hi hj' hlt)
    · rfl
    · exact absurd ⟨hkey', hkey⟩ (hkeys j i hj' hi hlt)
  have hlexemes := hopenLine.lexemes.symm.trans hopenLine'.lexemes
  cases hlexemes
  exact hfound

/-- **What an engine keeps of a table is what its lines tell.** -/
theorem readTable_of_isOpen {entry : CatalogEntry} {columns : List CatalogColumn}
    (hname : '(' ∉ b.name.toList) (hread : b.IsRead) (hopen : IsOpen b) (hentry : entry.name = b.name)
    (hdefinition : entry.definition = some definition) (htext : IsTextOf b definition)
    (htold : List.Forall₂ (fun line c => ∀ n t cs, IsOpenLine line n t cs → IsTold n t cs c)
      b.columns columns)
    (hkeys : columns.Pairwise fun c d => ¬(c.isPrimaryKey = true ∧ d.isPrimaryKey = true)) :
    readTable entry columns = .ok b.told := by
  -- every line tells of a column
  have hsome : List.Forall₂ (fun line column => Outline.toldColumn? b.name line = some column)
      b.columns b.told.columns := by
    refine Outline.forall₂_filterMap_iff.2 fun line hline => ?_
    obtain ⟨n, t, cs, hopen⟩ := hopen.columns line hline
    obtain ⟨parts, hclass⟩ := hopen.isColumn
    obtain ⟨column, hcolumn⟩ := hread line hline parts hclass
    simp [Outline.toldColumn?, hclass, hcolumn, Except.toOption]
  obtain ⟨hlength, htoldAt⟩ := List.forall₂_iff_get.1 htold
  obtain ⟨hlength', hsome⟩ := List.forall₂_iff_get.1 hsome
  refine readTable_of_readColumn hentry.symm (hlength'.symm.trans hlength) fun i c column hc hcolumn => ?_
  obtain ⟨hi, rfl⟩ := List.getElem?_eq_some_iff.1 hc
  obtain ⟨hi', rfl⟩ := List.getElem?_eq_some_iff.1 hcolumn
  have hline : i < b.columns.length := hlength.symm ▸ hi
  have hmem : b.columns[i] ∈ b.columns := List.getElem_mem hline
  obtain ⟨n, t, cs, hopenLine⟩ := hopen.columns _ hmem
  obtain ⟨parts, hclass⟩ := hopenLine.isColumn
  obtain ⟨column, hcolumn⟩ := hread _ hmem parts hclass
  have htoldLine := htoldAt i hline hi n t cs hopenLine
  have heq : b.told.columns[i] = column := by
    have := hsome i hline hi'
    simpa [Outline.toldColumn?, hclass, hcolumn, Except.toOption, eq_comm] using this
  rw [heq, hentry, hdefinition]
  refine readColumn_of_isTold hopenLine htoldLine hclass hcolumn ⟨?_, fun hstates => ?_⟩
  · rintro ⟨hkey, -, hfound⟩
    exact statesFrom_of_declares hname htext hopen htold hkeys hline hi hopenLine hkey hfound
  · obtain ⟨hkey, htype⟩ := htoldLine.increment hstates
    have hinteger : Affinity.ofText columns[i].declaredType = .ok .integer :=
      Outline.ofText_of_sameName (List.all_eq_true.1 (by decide)) htype (by decide)
    obtain ⟨hgap, -⟩ := parts_of_readColumn hopenLine htoldLine hclass hcolumn
    exact ⟨hkey, hinteger, declares_of_line hname htext hmem hopenLine htoldLine hgap hstates⟩

end Tables

/-! ## Both strategies -/

section Strategies

variable {e : Engine} {script : String} {store : e.Store} {entries : List CatalogEntry}
  {front : List String} {blocks : List Block} {tables : List Table}

/-- A key, a condition, a text that begins with NOT, and comments. -/
def commentedScript : String :=
  "-- tables\ncreate table if not exists t (\n  id Integer primary key AutoIncrement, -- the key\n" ++
    "  a text default 'not set' check (a > 1) Not Null\n);"

/-- The lines of the table. -/
def commentedBlock : Block where
  name := "t"
  header := "create table if not exists t ("
  columns := ["  id Integer primary key AutoIncrement, -- the key",
    "  a text default 'not set' check (a > 1) Not Null"]
  closing := ");"
  behind := []

/-- What the lines define. -/
def commentedDefinition : TableDefinition where
  name := ⟨none, "t"⟩
  isTemporary := false
  ifNotExists := true
  columns := [⟨"id", "INTEGER", [.primaryKey false true]⟩, ⟨"a", "TEXT",
    [.default (.literal (.text "not set")),
      .check (.binary .greater (.name none "a" false) (.literal (.integer 1))) "a > 1", .notNull]⟩]
  constraints := []
  withoutRowid := false
  source := "t (\n  id Integer primary key AutoIncrement, -- the key\n" ++
    "  a text default 'not set' check (a > 1) Not Null\n)"

/-- The table of the script. -/
def commentedTable : Table :=
  ⟨"t", [⟨"id", .integer, true, true, false⟩, ⟨"a", .text, false, false, false⟩]⟩

/-- The lexemes of the constraints of the key. -/
def keyConstraints : List Lexeme :=
  [wordAt [' '] "primary", wordAt [' '] "key", wordAt [' '] "AutoIncrement", markAt [] ',',
    ⟨" -- the key".toList, [], .finish⟩]

/-- The lexemes of the constraints of the other column. -/
def textConstraints : List Lexeme :=
  [wordAt [' '] "default", ⟨[' '], "'not set'".toList, .string "not set"⟩, wordAt [' '] "check",
    markAt [' '] '(', wordAt [] "a", ⟨[' '], ['>'], .symbol ">"⟩, ⟨[' '], ['1'], .integer "1"⟩,
    markAt [] ')', wordAt [' '] "Not", wordAt [' '] "Null", ⟨[], [], .finish⟩]

theorem isOpenLine_key : IsOpenLine "  id Integer primary key AutoIncrement, -- the key"
    (wordAt [' ', ' '] "id") (wordAt [' '] "Integer") keyConstraints where
  lexemes := (lex_of_toList String.toList_ofList).trans (by decide +kernel)
  noNul := by decide +kernel
  bareName := by decide
  bareType := by decide
  oneWord := by decide
  isColumn := ⟨⟨"id", "Integer", " primary key AutoIncrement, -- the key"⟩, by decide +kernel⟩
  notGenerated := by decide
  phrases := by decide +kernel
  noComma := fun _ => ⟨[wordAt [' '] "Integer", wordAt [' '] "primary", wordAt [' '] "key"],
    wordAt [' '] "AutoIncrement", by decide, by decide, by decide⟩

theorem isOpenLine_text : IsOpenLine "  a text default 'not set' check (a > 1) Not Null"
    (wordAt [' ', ' '] "a") (wordAt [' '] "text") textConstraints where
  lexemes := (lex_of_toList String.toList_ofList).trans (by decide +kernel)
  noNul := by decide +kernel
  bareName := by decide
  bareType := by decide
  oneWord := by decide
  isColumn := ⟨⟨"a", "text", " default 'not set' check (a > 1) Not Null"⟩, by decide +kernel⟩
  notGenerated := by decide
  phrases := by decide +kernel
  noComma := fun hstates => absurd hstates (by decide)

/-- What the catalog tells of the columns. -/
def commentedColumns : List CatalogColumn :=
  [⟨"id", "INTEGER", false, true⟩, ⟨"a", "TEXT", true, false⟩]

theorem isTold_commentedColumns :
    List.Forall₂ (fun line c => ∀ n t cs, IsOpenLine line n t cs → IsTold n t cs c)
      commentedBlock.columns commentedColumns := by
  refine .cons (fun n t cs hopen => ?_) (.cons (fun n t cs hopen => ?_) .nil)
  · have hlexemes := hopen.lexemes.symm.trans isOpenLine_key.lexemes
    cases hlexemes
    exact ⟨rfl, ⟨"Integer", rfl, by decide⟩, by decide, by decide, by decide, by decide⟩
  · have hlexemes := hopen.lexemes.symm.trans isOpenLine_text.lexemes
    cases hlexemes
    exact ⟨rfl, ⟨"text", rfl, by decide⟩, by decide, by decide, by decide, by decide⟩

/-- Two tables whose names differ in case only, with NOT NULL in a text and with a comment in it, with a
quoted name, and with a comma in front of AUTOINCREMENT. -/
def misreadScript : String :=
  "CREATE TABLE IF NOT EXISTS t (\n  a TEXT DEFAULT 'NOT NULL',\n  b TEXT NOT/**/NULL,\n" ++
    "  \"c\" TEXT,\n  d INTEGER CHECK (d IN (1, 2)) PRIMARY KEY AUTOINCREMENT\n);\n" ++
    "CREATE TABLE IF NOT EXISTS T (\n  e TEXT\n);"

/-- The lines of the tables. -/
def misreadBlocks : List Block :=
  [⟨"t", "CREATE TABLE IF NOT EXISTS t (",
      ["  a TEXT DEFAULT 'NOT NULL',", "  b TEXT NOT/**/NULL,", "  \"c\" TEXT,",
        "  d INTEGER CHECK (d IN (1, 2)) PRIMARY KEY AUTOINCREMENT"], ");", []⟩,
    ⟨"T", "CREATE TABLE IF NOT EXISTS T (", ["  e TEXT"], ");", []⟩]

/-- The tables that a scan finds. -/
def misreadTables : List Table :=
  [⟨"t", [⟨"a", .text, false, false, false⟩, ⟨"b", .text, false, false, true⟩,
      ⟨"d", .integer, true, true, false⟩]⟩,
    ⟨"T", [⟨"e", .text, false, false, true⟩]⟩]

/-- A type of two words. -/
def twoWordScript : String :=
  "CREATE TABLE IF NOT EXISTS t (\n  a TEXT x\n);"

/-- The lines of the table. -/
def twoWordBlock : Block :=
  ⟨"t", "CREATE TABLE IF NOT EXISTS t (", ["  a TEXT x"], ");", []⟩

/-- A table that has the name of the query for columns. -/
def queryNameScript : String :=
  "CREATE TABLE IF NOT EXISTS pragma_table_info (\n  a TEXT\n);"

/-- The lines of the table. -/
def queryNameBlock : Block :=
  ⟨"pragma_table_info", "CREATE TABLE IF NOT EXISTS pragma_table_info (", ["  a TEXT"], ");", []⟩

end Strategies

end Catalog

end Tablewright
