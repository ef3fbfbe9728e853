import Tablewright.Outline.Scan
import Tablewright.Proofs.Outline.Phrases
import Tablewright.Proofs.Text.Runs

/-!
# Printed table definitions

Tables are printed with one line for each column (`TableDeclaration.lines`). Each printed line is
classified as what it was printed for: the first line as the header of the table (`classify_header`),
and a column line as its name, its type and its constraints (`classify_line`), from which the
column is read back (`readColumn_line`).
-/

namespace Tablewright.Outline

open Text

/-! ## Declarations -/

/-- A column as it is declared. -/
structure ColumnDeclaration where
  name : String
  affinity : Affinity
  notNull : Bool
  primaryKey : Bool
  autoIncrement : Bool
  deriving DecidableEq, Repr

/-- A table as it is declared. -/
structure TableDeclaration where
  name : String
  columns : List ColumnDeclaration
  deriving DecidableEq, Repr

/-- The keywords that begin a statement or a constraint by themselves. -/
def reservedNames : List String :=
  ["drop", "constraint", "unique", "check"]

/-- Constraints as they are printed behind a type. -/
def constraintText (notNull primaryKey autoIncrement : Bool) : String :=
  (if notNull then " NOT NULL" else "") ++ (if primaryKey then " PRIMARY KEY" else "") ++
    (if autoIncrement then " AUTOINCREMENT" else "")

namespace ColumnDeclaration

variable (d : ColumnDeclaration)

/-- The column that is declared. -/
def column : Column :=
  .declare d.name d.affinity d.notNull d.primaryKey d.autoIncrement

/-- The line of the column, up to the comma. -/
def line : String :=
  "  " ++ d.name ++ " " ++ d.affinity.keyword ++
    constraintText d.notNull d.primaryKey d.autoIncrement

/-- Whether the name is a word of ASCII letters, digits and underscores that does not begin with a
digit, and not reserved. -/
def isPrintable : Bool :=
  d.name.toList.all isPlainNameChar && d.name.toList.head?.any (!·.isDigit) &&
    lowerAscii d.name ∉ reservedNames

end ColumnDeclaration

/-- The lines of columns, separated by commas. -/
def columnLines : List ColumnDeclaration → List String
  | [] => []
  | [d] => [d.line]
  | d :: rest => (d.line ++ ",") :: columnLines rest

namespace TableDeclaration

variable (t : TableDeclaration)

/-- The table that is declared. -/
def table : Table :=
  ⟨t.name, t.columns.map (·.column)⟩

/-- The first line. -/
def header : String :=
  "CREATE TABLE IF NOT EXISTS " ++ t.name ++ " ("

/-- The lines of the definition. -/
def lines : List String :=
  t.header :: columnLines t.columns ++ [");"]

/-- Whether the name is a word of ASCII letters, digits and underscores, and the columns are
printable. -/
def isPrintable : Bool :=
  !t.name.toList.isEmpty && t.name.toList.all isPlainNameChar &&
    t.columns.all (·.isPrintable)

end TableDeclaration

/-! ## Headers -/

theorem dropBlank_name {name : List Char} (hname : ∀ c ∈ name, isPlainNameChar c = true)
    (hne : name ≠ []) (rest : List Char) : dropBlank (name ++ rest) = name ++ rest :=
  dropBlank_append (fun c hc => (facts_of_isPlainNameChar (hname c hc)).2.2.2) hne rest

theorem toList_append_append (a b c : String) :
    (a ++ b ++ c).toList = a.toList ++ (b.toList ++ c.toList) := by
  rw [String.toList_append, String.toList_append, List.append_assoc]

-- The general lemma is applied as it stands: a rewrite would try to split the fixed texts, too.
theorem TableDeclaration.toList_header (t : TableDeclaration) :
    t.header.toList = "CREATE TABLE IF NOT EXISTS ".toList ++ (t.name.toList ++ [' ', '(']) :=
  toList_append_append _ _ _

theorem keywords?_header (rest : List Char) :
    keywords? ["create", "table", "if", "not", "exists"]
      (dropBlank ("CREATE TABLE IF NOT EXISTS ".toList ++ rest)) = some (' ' :: rest) := by
  rfl

/-- **The first line of a table is its header.** -/
theorem classify_header {t : TableDeclaration} (ht : t.isPrintable = true) :
    Line.classify t.header = .header t.name := by
  simp only [TableDeclaration.isPrintable, Bool.and_eq_true, Bool.not_eq_true',
    List.isEmpty_eq_false_iff, List.all_eq_true] at ht
  obtain ⟨⟨hne, hname⟩, -⟩ := ht
  have hnameChar : ∀ c ∈ t.name.toList, isNameChar c = true := fun c hc =>
    (facts_of_isPlainNameChar (hname c hc)).2.1
  have hblanks : blanks? (' ' :: (t.name.toList ++ [' ', '('])) =
      some (t.name.toList ++ [' ', '(']) :=
    congrArg some (dropBlank_name hname hne _)
  have hheader : headerName? (dropBlank t.header.toList) = some t.name := by
    have hfront : (t.name.toList ++ [' ', '(']).takeWhile isNameChar = t.name.toList :=
      takeWhile_append_of_all hnameChar rfl
    have hbehind : (t.name.toList ++ [' ', '(']).dropWhile isNameChar = [' ', '('] :=
      dropWhile_append_of_all hnameChar rfl
    rw [t.toList_header, headerName?, keywords?_header]
    simp only [Option.bind_eq_bind, Option.bind_some, hblanks, hfront, hbehind]
    have hparenthesis : dropBlank [' ', '('] = ['('] := rfl
    have hend : dropBlank [] = [] := rfl
    simp [hparenthesis, hend, hne]
  rw [Line.classify, hheader]

/-! ## Column lines -/

/-- What a column line is without the white space in front. -/
def columnText (name : List Char) (affinity : Affinity) (tail : List Char) : List Char :=
  name ++ ' ' :: (affinity.keyword.toList ++ tail)

/-- The keywords that stand second in a phrase. -/
def laterKeywords : List String :=
  ["table", "temp", "temporary", "index", "unique", "trigger", "view", "key"]

/-- No type begins with a keyword that stands second. -/
theorem keyword?_affinity (affinity : Affinity) (tail : List Char) :
    ∀ k ∈ laterKeywords, keyword? k.toList (affinity.keyword.toList ++ tail) = none := by
  intro k hk
  simp only [laterKeywords, List.mem_cons, List.not_mem_nil, or_false] at hk
  rcases hk with rfl | rfl | rfl | rfl | rfl | rfl | rfl | rfl <;> cases affinity <;> rfl

theorem dropBlank_affinity (affinity : Affinity) (tail : List Char) :
    dropBlank (affinity.keyword.toList ++ tail) = affinity.keyword.toList ++ tail := by
  cases affinity <;> rfl

/-- Whether a phrase is one that no column line begins with: either a reserved name, or one that
goes on with another keyword than a type. -/
def isForeignPhrase : List String → Bool
  | [] => false
  | [k] => k ∈ reservedNames && ' ' ∉ k.toList
  | k :: k' :: _ => k' ∈ laterKeywords && ' ' ∉ k.toList

theorem isForeignPhrase_phrases :
    (∀ ks ∈ tablePhrases, isForeignPhrase ks = true) ∧
      (∀ ks ∈ skippedPhrases, isForeignPhrase ks = true) ∧
      ∀ ks ∈ constraintPhrases, isForeignPhrase ks = true := by
  decide

section Column

variable {d : ColumnDeclaration}

/-- The name of a column that is printable. -/
theorem ColumnDeclaration.name_of_isPrintable (hd : d.isPrintable = true) :
    (∀ c ∈ d.name.toList, isPlainNameChar c = true) ∧
      (∃ c cs, d.name.toList = c :: cs ∧ c.isDigit = false) ∧ lowerAscii d.name ∉ reservedNames := by
  simp only [isPrintable, Bool.and_eq_true, List.all_eq_true, decide_eq_true_eq] at hd
  obtain ⟨⟨hname, hfirst⟩, hfree⟩ := hd
  refine ⟨hname, ?_, hfree⟩
  cases hlist : d.name.toList with
  | nil => rw [hlist] at hfirst; cases hfirst
  | cons c cs => exact ⟨c, cs, rfl, by simpa [hlist] using hfirst⟩

theorem keywords?_columnText (hd : d.isPrintable = true) {k k' : String} {ks : List String}
    (hforeign : isForeignPhrase (k :: k' :: ks) = true) (tail : List Char) :
    keywords? (k :: k' :: ks) (columnText d.name.toList d.affinity tail) = none := by
  obtain ⟨hname, -, -⟩ := ColumnDeclaration.name_of_isPrintable hd
  simp only [isForeignPhrase, Bool.and_eq_true, decide_eq_true_eq] at hforeign
  obtain ⟨hlater, hspace⟩ := hforeign
  rw [Option.eq_none_iff_forall_ne_some]
  intro rest h
  have hbehind := keywords?_behind_name hname hspace h
  have hnone := keyword?_affinity d.affinity tail k' hlater
  rw [dropBlank_affinity] at hbehind
  cases ks <;> simp [keywords?, hnone] at hbehind

/-- **A column line begins with no phrase.** -/
theorem beginsWith_columnText (hd : d.isPrintable = true) {ks : List String}
    (hforeign : isForeignPhrase ks = true) (tail : List Char) :
    beginsWith ks (columnText d.name.toList d.affinity tail) = false := by
  obtain ⟨hname, -, hfree⟩ := ColumnDeclaration.name_of_isPrintable hd
  match ks with
  | [k] =>
    simp only [isForeignPhrase, Bool.and_eq_true, decide_eq_true_eq] at hforeign
    rw [Bool.eq_false_iff]
    intro h
    have hfold := map_foldCase_of_beginsWith hname hforeign.2 h
    have hlower : lowerAscii d.name = k := by
      rw [← String.toList_inj, lowerAscii, String.toList_map, ← hfold]
      exact List.map_congr_left fun c hc => (facts_of_isPlainNameChar (hname c hc)).1.symm
    exact hfree (hlower ▸ hforeign.1)
  | k :: k' :: ks => rw [beginsWith, keywords?_columnText hd hforeign]; rfl

theorem beginsWithAny_columnText (hd : d.isPrintable = true) {phrases : List (List String)}
    (h : ∀ ks ∈ phrases, isForeignPhrase ks = true) (tail : List Char) :
    beginsWithAny phrases (columnText d.name.toList d.affinity tail) = false := by
  rw [beginsWithAny, List.any_eq_false]
  intro ks hks
  rw [beginsWith_columnText hd (h ks hks)]
  exact Bool.false_ne_true

theorem headerName?_columnText (hd : d.isPrintable = true) (tail : List Char) :
    headerName? (columnText d.name.toList d.affinity tail) = none := by
  rw [headerName?, keywords?_columnText hd (by decide)]
  rfl

/-- What follows the type of a column: something that is no letter, and not a size. -/
def IsTail (tail : List Char) : Prop :=
  tail.dropWhile Char.isAlpha = tail ∧ wordEnds tail = true ∧ size? tail = none

instance (tail : List Char) : Decidable (IsTail tail) :=
  inferInstanceAs (Decidable (_ ∧ _))

theorem columnLine?_columnText (hd : d.isPrintable = true) {tail : List Char} (htail : IsTail tail) :
    columnLine? (columnText d.name.toList d.affinity tail) =
      some ⟨d.name, d.affinity.keyword, String.ofList tail⟩ := by
  obtain ⟨hname, ⟨c, cs, hlist, hdigit⟩, -⟩ := ColumnDeclaration.name_of_isPrintable hd
  obtain ⟨hdrop, hends, hsize⟩ := htail
  have hblanks : blanks? (' ' :: (d.affinity.keyword.toList ++ tail)) =
      some (d.affinity.keyword.toList ++ tail) :=
    congrArg some (dropBlank_affinity d.affinity tail)
  have htype : (d.affinity.keyword.toList ++ tail).dropWhile Char.isAlpha = tail ∧
      (d.affinity.keyword.toList ++ tail).head?.any Char.isAlpha = true := by
    cases d.affinity <;> exact ⟨hdrop, rfl⟩
  have hbefore : before (d.affinity.keyword.toList ++ tail) tail = d.affinity.keyword := by
    rw [before, List.length_append, Nat.add_sub_cancel, List.take_left, String.ofList_toList]
  have hfirst : (d.name.toList.head?.all Char.isDigit) = false := by
    rw [hlist]
    exact hdigit
  have hspace : (' ' :: (d.affinity.keyword.toList ++ tail)).head?.all
      (fun c => !isPlainNameChar c) = true := rfl
  rw [columnText, columnLine?]
  simp only [takeWhile_append_of_all hname hspace, dropWhile_append_of_all hname hspace, hfirst,
    hblanks,
    Option.bind_eq_bind, Option.bind_some, htype, hends, hsize, Option.getD_none, hbefore,
    String.ofList_toList, Bool.not_true, Bool.or_self, Bool.false_eq_true, if_false]
  rfl

/-- **A column line is classified as one**, whatever follows its type. -/
theorem classify_columnText (hd : d.isPrintable = true) {tail : List Char} (htail : IsTail tail)
    {line : String} (hline : line.toList = ' ' :: ' ' :: columnText d.name.toList d.affinity tail) :
    Line.classify line = .column ⟨d.name, d.affinity.keyword, String.ofList tail⟩ := by
  obtain ⟨hname, ⟨c, cs, hlist, -⟩, -⟩ := ColumnDeclaration.name_of_isPrintable hd
  have hblank : dropBlank line.toList = columnText d.name.toList d.affinity tail := by
    rw [hline]
    exact dropBlank_name hname (by simp [hlist]) _
  obtain ⟨htable, hskipped, hconstraint⟩ := isForeignPhrase_phrases
  have hend : (columnText d.name.toList d.affinity tail).head? ≠ some ')' := by
    rw [columnText, hlist, List.cons_append, List.head?_cons]
    intro hc
    have hplain := hname c (by simp [hlist])
    rw [Option.some.inj hc] at hplain
    cases hplain
  rw [Line.classify, hblank, headerName?_columnText hd]
  simp only [beginsWithAny_columnText hd htable, beginsWithAny_columnText hd hskipped,
    beginsWithAny_columnText hd hconstraint, hend, columnLine?_columnText hd htail, if_false,
    Bool.false_eq_true]

end Column

/-! ## Columns read back -/

/-- What stands behind a column line. -/
def separators : List String :=
  ["", ","]

/-- The characters of printed constraints. -/
def constraintChars (notNull primaryKey autoIncrement : Bool) : List Char :=
  (if notNull then [' ', 'N', 'O', 'T', ' ', 'N', 'U', 'L', 'L'] else []) ++
    (if primaryKey then [' ', 'P', 'R', 'I', 'M', 'A', 'R', 'Y', ' ', 'K', 'E', 'Y'] else []) ++
    (if autoIncrement then
      [' ', 'A', 'U', 'T', 'O', 'I', 'N', 'C', 'R', 'E', 'M', 'E', 'N', 'T'] else [])

theorem chars_constraintText (notNull primaryKey autoIncrement : Bool) :
    (constraintText notNull primaryKey autoIncrement).toList =
      constraintChars notNull primaryKey autoIncrement := by
  have hpart : ∀ (b : Bool) (cs : List Char),
      (if b then String.ofList cs else "").toList = if b then cs else [] := by
    rintro (_ | _) cs
    · rfl
    · exact String.toList_ofList
  rw [constraintText, constraintChars, String.toList_append, String.toList_append]
  exact congr (congrArg _ (congr (congrArg _ (hpart _ _)) (hpart _ _))) (hpart _ _)

/-- What stands behind a type, by its characters. -/
theorem chars_tail (notNull primaryKey autoIncrement : Bool) (separator : String) :
    (constraintText notNull primaryKey autoIncrement ++ separator).toList =
      constraintChars notNull primaryKey autoIncrement ++ separator.toList := by
  rw [String.toList_append, chars_constraintText]

theorem isTail_constraintText : ∀ notNull primaryKey autoIncrement, ∀ separator ∈ separators,
    IsTail (constraintText notNull primaryKey autoIncrement ++ separator).toList := by
  simp only [chars_tail]
  decide +kernel

/-- The printed constraints are found again, and no other ones. -/
theorem contains_constraintText : ∀ notNull primaryKey autoIncrement, ∀ separator ∈ separators,
    let tail := (constraintText notNull primaryKey autoIncrement ++ separator).toList
    contains ["not", "null"] none tail = notNull ∧
      contains ["primary", "key"] none tail = primaryKey ∧
      contains ["autoincrement"] none tail = autoIncrement := by
  simp only [chars_tail]
  decide +kernel

theorem ofText_keyword (affinity : Affinity) : Affinity.ofText affinity.keyword = .ok affinity := by
  cases affinity <;> rfl

namespace ColumnDeclaration

variable (d : ColumnDeclaration)

/-- What follows the type of a column line. -/
def tail (separator : String) : String :=
  constraintText d.notNull d.primaryKey d.autoIncrement ++ separator

theorem toList_line (separator : String) : (d.line ++ separator).toList =
    ' ' :: ' ' :: columnText d.name.toList d.affinity (d.tail separator).toList := by
  have general (a b c d e f : String) : (a ++ b ++ c ++ d ++ e ++ f).toList =
      a.toList ++ (b.toList ++ (c.toList ++ (d.toList ++ (e ++ f).toList))) := by
    simp only [String.toList_append, List.append_assoc]
  exact general ..

/-- **The line of a column is classified as its parts.** -/
theorem classify_line (hd : d.isPrintable = true) {separator : String}
    (hs : separator ∈ separators) : Line.classify (d.line ++ separator) =
      .column ⟨d.name, d.affinity.keyword, d.tail separator⟩ := by
  have htail : IsTail (d.tail separator).toList := isTail_constraintText _ _ _ separator hs
  rw [classify_columnText hd htail (d.toList_line separator), String.ofList_toList]

/-- **The column is read back from the parts of its line.** -/
theorem readColumn_line (table : String) {separator : String} (hs : separator ∈ separators) :
    readColumn table ⟨d.name, d.affinity.keyword, d.tail separator⟩ = .ok d.column := by
  obtain ⟨hnull, hkey, hincrement⟩ :=
    contains_constraintText d.notNull d.primaryKey d.autoIncrement separator hs
  rw [readColumn, ofText_keyword]
  simp only [tail, hnull, hkey, hincrement]
  rfl

end ColumnDeclaration

end Tablewright.Outline
