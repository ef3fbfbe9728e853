import Tablewright.Proofs.Extraction.FixedScripts
import Tablewright.Proofs.Extraction.IncrementSearch
import Tablewright.Proofs.Sql.Increments

/-!
# Which columns are reported to be autoincremented

The flag of a column is read from the text of its table, whatever engine ran the script. Which column
AUTOINCREMENT is applied to can be told from the lexemes of the text (`appliesIncrement`): it stands
among the constraints of the column, or in a PRIMARY KEY clause of the table. The flags are the right
ones if the search can see it (`TellsIncrement`): white space stands directly behind the name and no
comma in front of the keyword, and the word is not found in comments, strings and names alone
(`isAutoIncrement_iff`). A comma in a condition between the name and the keyword is enough to lose the
flag (`extract_loses_increment`).
-/

namespace Tablewright

/-! ## The keyword as a lexeme -/

namespace Outline

open Text

/-- A word that is the same name as a plain one folds to it. -/
theorem map_foldCase_of_sameName {w k : String}
    (hk : ∀ c ∈ (lowerAscii k).toList, isPlainNameChar c = true) (h : sameName w k = true) :
    w.toList.map foldCase = (lowerAscii k).toList ∧ ∀ c ∈ w.toList, isPlainNameChar c = true := by
  have hlower : w.toList.map Char.toLower = (lowerAscii k).toList := by
    rw [← sameName_iff.1 h, lowerAscii, String.toList_map]
  have hplain : ∀ c ∈ w.toList, isPlainNameChar c = true := fun c hc =>
    isPlainNameChar_of_toLower (hk _ (hlower ▸ List.mem_map_of_mem hc))
  refine ⟨?_, hplain⟩
  rw [← hlower]
  exact List.map_congr_left fun c hc => (facts_of_isPlainNameChar (hplain c hc)).1

theorem isPlainNameChar_toLower_ascii : ∀ n : Fin 128,
    isPlainNameChar (Char.ofNat n) = true → isPlainNameChar (Char.ofNat n).toLower = true := by
  decide

theorem isPlainNameChar_toLower {c : Char} (h : isPlainNameChar c = true) :
    isPlainNameChar c.toLower = true := by
  have hascii := isPlainNameChar_toLower_ascii ⟨c.toNat, toNat_lt_of_isPlainNameChar h⟩
  rw [Char.ofNat_toNat] at hascii
  exact hascii h

theorem trimBlank_of_plain {s : String} (h : ∀ c ∈ s.toList, isPlainNameChar c = true) :
    trimBlank s = s := by
  have hdrop : ∀ cs : List Char, (∀ c ∈ cs, isPlainNameChar c = true) → dropBlank cs = cs := by
    intro cs hcs
    cases cs with
    | nil => rfl
    | cons c cs =>
      have hc := (facts_of_isPlainNameChar (hcs c List.mem_cons_self)).2.2.2
      rw [dropBlank, List.dropWhile_cons, if_neg (by simp [hc])]
  rw [trimBlank, hdrop _ h, hdrop _ fun c hc => h c (List.mem_reverse.1 hc), List.reverse_reverse,
    String.ofList_toList]

/-- A plain word is the same type in any case. -/
theorem ofText_of_sameName {a b : String} {affinity : Affinity}
    (hb : ∀ c ∈ b.toList, isPlainNameChar c = true) (h : sameName a b = true)
    (hread : Affinity.ofText b = .ok affinity) : Affinity.ofText a = .ok affinity := by
  have hlower : ∀ c ∈ (lowerAscii b).toList, isPlainNameChar c = true := by
    intro c hc
    rw [lowerAscii, String.toList_map] at hc
    obtain ⟨d, hd, rfl⟩ := List.mem_map.1 hc
    exact isPlainNameChar_toLower (hb d hd)
  have hsame : ∀ k, sameName k a = sameName k b := fun k => by
    rw [Bool.eq_iff_iff, sameName_iff, sameName_iff, sameName_iff.1 h]
  rw [Affinity.ofText, trimBlank_of_plain (map_foldCase_of_sameName hlower h).2]
  rw [Affinity.ofText, trimBlank_of_plain hb] at hread
  simp only [hsame]
  cases hfind : Affinity.all.find? fun x => sameName x.keyword b with
  | none => simp [hfind] at hread
  | some x => simpa [hfind] using hread

theorem not_isWordChar_ascii : ∀ n : Fin 128,
    Sql.isNameChar (Char.ofNat n) = false → isWordChar (Char.ofNat n) = false := by
  decide

/-- Where a name of SQL ends, a word ends. -/
theorem wordEnds_of_endsName {rest : List Char}
    (h : rest.head?.all (fun c => !Sql.isNameChar c) = true) : wordEnds rest = true := by
  cases rest with
  | nil => rfl
  | cons c rest =>
    have hc : Sql.isNameChar c = false := by simpa using h
    have hlt : c.toNat < 128 := by
      simp only [Sql.isNameChar, Sql.isNameStart, Bool.or_eq_false_iff, decide_eq_false_iff_not,
        not_le] at hc
      exact hc.1.1.2
    have hascii := not_isWordChar_ascii ⟨c.toNat, hlt⟩
    rw [Char.ofNat_toNat] at hascii
    simp [wordEnds, hascii hc]

end Outline

namespace Sql

open Outline

variable {k script : String} {before behind : List Lexeme} {l : Lexeme}

/-- A keyword is a plain word in lower case. -/
structure IsPlainKeyword (k : String) : Prop where
  lower : Text.lowerAscii k = k
  nonempty : k ≠ ""
  plain : ∀ c ∈ k.toList, isPlainNameChar c = true

/-- A keyword is judged by its characters. -/
theorem IsPlainKeyword.of_toList (hlower : k.toList.map Char.toLower = k.toList)
    (hnonempty : k.toList ≠ []) (hplain : k.toList.all isPlainNameChar = true) :
    IsPlainKeyword k where
  lower := by rw [← String.toList_inj, Text.lowerAscii, String.toList_map, hlower]
  nonempty := by
    rintro rfl
    exact hnonempty rfl
  plain := List.all_eq_true.1 hplain

/-- The text of a keyword is the keyword, and no word goes on behind it. -/
theorem Lexeme.text_of_isKeyword (hk : IsPlainKeyword k) (h : lex script = before ++ l :: behind)
    (hl : Grammar.isKeyword k l.token = true) :
    l.text.map Text.foldCase = k.toList ∧ (∀ c ∈ l.text, isPlainNameChar c = true) ∧ l.text ≠ [] ∧
      wordEnds (textOf behind) = true := by
  obtain ⟨gap, text, token⟩ := l
  cases token with
  | word w =>
    obtain ⟨rfl, hends⟩ := isTaken_of_lex h nofun
    obtain ⟨hfold, hplain⟩ := map_foldCase_of_sameName (by rw [hk.lower]; exact hk.plain) hl
    rw [hk.lower] at hfold
    refine ⟨hfold, hplain, fun hnil : w.toList = [] => hk.nonempty ?_, wordEnds_of_endsName hends⟩
    rw [hnil, List.map_nil] at hfold
    simpa using hfold.symm
  | _ => cases hl

theorem isKeyword_of_lowerAscii {k k' : String} {t : Token} (hk : Text.lowerAscii k = Text.lowerAscii k')
    (h : Grammar.isKeyword k t = true) : Grammar.isKeyword k' t = true := by
  cases t with
  | word w =>
    have hsame : Text.sameName w k = true := h
    rw [Text.sameName_iff, hk, ← Text.sameName_iff] at hsame
    exact hsame
  | _ => cases h

theorem isPlainKeyword_autoincrement : IsPlainKeyword "autoincrement" :=
  .of_toList (by decide) (by decide) (by decide)

/-- The keyword AUTOINCREMENT in a script: its text, and that a word ends there. -/
theorem Lexeme.text_of_isIncrement (h : lex script = before ++ l :: behind)
    (hl : l.isIncrement = true) :
    l.text.map Text.foldCase = "autoincrement".toList ∧ ',' ∉ l.text ∧
      wordEnds (textOf behind) = true := by
  have hlower : Text.lowerAscii "AUTOINCREMENT" = Text.lowerAscii "autoincrement" := by
    rw [← String.toList_inj]
    decide +kernel
  rw [Lexeme.isIncrement] at hl
  obtain ⟨hfold, hplain, -, hends⟩ :=
    text_of_isKeyword isPlainKeyword_autoincrement h (isKeyword_of_lowerAscii hlower hl)
  exact ⟨hfold, fun hcomma => absurd (hplain _ hcomma) (by decide), hends⟩

/-! ## Lexemes inside and outside of parentheses -/

/-- How deep in parentheses a text is behind a lexeme. -/
def depthBehind (depth : Nat) (l : Lexeme) : Nat :=
  if l.token = .symbol "(" then depth + 1
  else if l.token = .symbol ")" then depth - 1
  else depth

/-- The lexemes outside of parentheses. -/
def outerFrom : Nat → List Lexeme → List Lexeme
  | _, [] => []
  | depth, l :: rest =>
    let others := outerFrom (depthBehind depth l) rest
    if depth = 0 then l :: others else others

/-- The items that commas outside of parentheses separate, up to the parenthesis that closes. -/
def itemsFrom : Nat → List Lexeme → List (List Lexeme)
  | _, [] => [[]]
  | depth, l :: rest =>
    if depth = 0 && l.token = .symbol ")" then [[]]
    else if depth = 0 && l.token = .symbol "," then [] :: itemsFrom 0 rest
    else
      match itemsFrom (depthBehind depth l) rest with
      | [] => [[l]]
      | item :: items => (l :: item) :: items

/-- What stands behind the first parenthesis. -/
def behindParenthesis (ls : List Lexeme) : List Lexeme :=
  (ls.dropWhile fun l => l.token ≠ .symbol "(").drop 1

/-- Whether a lexeme is a name of a column: bare, between quotes, or a string. -/
def Lexeme.namesColumn (column : String) (l : Lexeme) : Bool :=
  match l.token with
  | .word w => Text.sameName w column
  | .quotedName w _ => Text.sameName w column
  | .string w => Text.sameName w column
  | _ => false

/-- Whether AUTOINCREMENT stands in a clause `PRIMARY KEY (column ...)`. -/
def keyIncrements (column : String) : List Lexeme → Bool
  | [] => false
  | l :: rest =>
    (match rest with
      | key :: opening :: name :: others =>
        Grammar.isKeyword "PRIMARY" l.token && Grammar.isKeyword "KEY" key.token &&
          opening.token = .symbol "(" && name.namesColumn column &&
          (others.takeWhile (·.token ≠ .symbol ")")).any (·.isIncrement)
      | _ => false) || keyIncrements column rest

/-- Whether an item applies AUTOINCREMENT to a column: as one of its constraints, or in the key of
the table. -/
def itemIncrements (column : String) (item : List Lexeme) : Bool :=
  (match item with
    | [] => false
    | name :: constraints =>
      name.namesColumn column && (outerFrom 0 constraints).any (·.isIncrement)) ||
    keyIncrements column item

/-- Whether a table definition applies AUTOINCREMENT to a column. -/
def appliesIncrement (ls : List Lexeme) (column : String) : Bool :=
  (itemsFrom 0 (behindParenthesis ls)).any (itemIncrements column)

/-- The lexemes of a text are the text, up to its first NUL. -/
theorem textOf_lex (script : String) :
    textOf (lex script) = script.toList.takeWhile (· != '\x00') := by
  obtain ⟨ls, rest, hcuts, hlex⟩ := exists_cuts_lex script
  rw [hlex, hcuts.eq_textOf, textOf_append]
  simp [textOf]

end Sql

namespace Catalog

open Sql Text

/-! ## The text of a definition -/

/-- What follows the first parenthesis ends with what follows a later one. -/
theorem exists_append_afterParenthesis (before rest : List Char) :
    ∃ front, afterParenthesis (before ++ '(' :: rest) = front ++ rest ∧ nameBegins front = true := by
  induction before with
  | nil => exact ⟨[], rfl, rfl⟩
  | cons c before ih =>
    by_cases hc : c = '('
    · subst hc
      refine ⟨before ++ ['('], by simp [afterParenthesis], ?_⟩
      rw [nameBegins, List.getLast?_concat]
      decide
    · have hdrop : afterParenthesis (c :: before ++ '(' :: rest) =
          afterParenthesis (before ++ '(' :: rest) := by
        have hne : (before ++ '(' :: rest).dropWhile (· != '(') ≠ [] := by
          simp [List.dropWhile_eq_nil_iff]
        have hc' : (c != '(') = true := by simpa using hc
        rw [afterParenthesis, afterParenthesis, List.cons_append, List.dropWhile_cons, if_pos hc']
        split <;> simp_all
      rw [hdrop]
      exact ih

/-- What stands behind the first parenthesis among the lexemes of a definition ends its body. -/
theorem exists_definitionBody {text : String} (h : behindParenthesis (lex text) ≠ []) :
    ∃ before opening start trail, lex text = before ++ opening :: behindParenthesis (lex text) ∧
      nameBegins start = true ∧ Outline.wordEnds trail = true ∧
      definitionBody (some text) = start ++ (textOf (behindParenthesis (lex text)) ++ trail) := by
  have hcut := List.takeWhile_append_dropWhile (p := fun l : Lexeme => l.token ≠ .symbol "(")
    (l := lex text)
  cases hbehind : (lex text).dropWhile fun l : Lexeme => l.token ≠ .symbol "(" with
  | nil =>
    rw [behindParenthesis, hbehind] at h
    exact absurd rfl h
  | cons opening items =>
    rw [hbehind] at hcut
    have hitems : behindParenthesis (lex text) = items := by
      rw [behindParenthesis, hbehind]
      rfl
    have htoken : opening.token = .symbol "(" := by
      have := List.head?_dropWhile_not (fun l : Lexeme => l.token ≠ .symbol "(") (lex text)
      rw [hbehind] at this
      simpa using this
    have hopening : opening.text = ['('] := by
      have htaken := isTaken_of_lex hcut.symm (by rw [htoken]; nofun)
      rw [htoken] at htaken
      exact htaken
    generalize (lex text).takeWhile (fun l : Lexeme => l.token ≠ .symbol "(") = before at hcut
    have htext := List.takeWhile_append_dropWhile (p := (· != '\x00')) (l := text.toList)
    rw [← textOf_lex, ← hcut, textOf_append, textOf_cons, hopening] at htext
    obtain ⟨start, hstart, hbegins⟩ := exists_append_afterParenthesis (textOf before ++ opening.gap)
      (textOf items ++ text.toList.dropWhile (· != '\x00'))
    refine ⟨before, opening, start, text.toList.dropWhile (· != '\x00'), by rw [hitems, hcut],
      hbegins, ?_, ?_⟩
    · cases hrest : text.toList.dropWhile (· != '\x00') with
      | nil => rfl
      | cons c rest =>
        obtain rfl : c = '\x00' := by
          have := List.head?_dropWhile_not (· != '\x00') text.toList
          simpa [hrest] using this
        rfl
    · rw [hitems, ← hstart, definitionBody, Option.getD_some]
      refine congrArg afterParenthesis (htext.symm.trans ?_)
      simp

/-- What the search finds in the body of a definition is a word of the definition. -/
theorem contains_of_declaresAutoIncrement {text : String} {name : String}
    (h : declaresAutoIncrement (definitionBody (some text)) name = true) :
    Outline.contains ["autoincrement"] none text.toList = true := by
  rw [declaresAutoIncrement, definitionBody, Option.getD_some, afterParenthesis] at h
  split at h
  · exact contains_of_declaresIncrement _ h
  · rename_i c rest hbehind
    rw [← List.takeWhile_append_dropWhile (p := (· != '(')) (l := text.toList), hbehind]
    exact Outline.contains_append_left _ (contains_of_declaresIncrement _ h)

/-! ## What the lexemes tell -/

/-- A lexeme is written as a name: bare or between double quotes, backticks or brackets, in any
case. -/
def IsWrittenName (name : String) (l : Lexeme) : Prop :=
  ∃ quotes ∈ nameQuotes, ∃ written, l.text = quotes.1 ++ (written ++ quotes.2) ∧
    written.map foldCase = name.toList.map foldCase

/-- A name stands in a definition, and the keyword behind it, with white space and no comma between
them. -/
def MarksIncrement (name : String) (items : List Lexeme) : Prop :=
  ∃ before n between k, before ++ n :: (between ++ [k]) <+: items ∧ IsWrittenName name n ∧
    nameBegins (textOf before ++ n.gap) = true ∧ k.isIncrement = true ∧
    separates (textOf between ++ k.gap) = true

/-- A name and a keyword that are marked in lexemes are found in a text that ends with them. -/
theorem declaresAutoIncrement_of_marks {name : String} {items : List Lexeme} {start trail : List Char}
    (hbegins : nameBegins start = true)
    (hkeyword : ∀ before k after, items = before ++ k :: after → k.isIncrement = true →
      k.text.map foldCase = "autoincrement".toList ∧ ',' ∉ k.text ∧
        Outline.wordEnds (textOf after ++ trail) = true)
    (hm : MarksIncrement name items) :
    declaresAutoIncrement (start ++ (textOf items ++ trail)) name = true := by
  obtain ⟨before, n, between, k, ⟨after, rfl⟩, ⟨quotes, hquotes, written, hwritten, hname⟩, hfront,
    hk, hseparates⟩ := hm
  obtain ⟨hword, hcomma, hends⟩ :=
    hkeyword (before ++ n :: between) k after (by simp) hk
  have htext : start ++ (textOf (before ++ n :: (between ++ [k]) ++ after) ++ trail) =
      (start ++ (textOf before ++ n.gap)) ++ (quotes.1 ++ (written ++ (quotes.2 ++
        ((textOf between ++ k.gap) ++ (k.text ++ (textOf after ++ trail)))))) := by
    simp only [textOf_append, textOf_cons, hwritten, List.append_assoc]
    simp [textOf]
  rw [declaresAutoIncrement, htext]
  exact declaresIncrement_of_marked hquotes hname (nameBegins_append hbegins hfront) hseparates hword
    hcomma hends

/-- **A column that is marked is found** in the text of its table. -/
theorem declares_of_marks {text name : String}
    (hm : MarksIncrement name (behindParenthesis (lex text))) :
    declaresAutoIncrement (definitionBody (some text)) name = true := by
  have hne : behindParenthesis (lex text) ≠ [] := by
    intro hnil
    obtain ⟨_, _, _, _, hprefix, -⟩ := hm
    rw [hnil] at hprefix
    simpa using hprefix.length_le
  obtain ⟨before, opening, start, trail, hlex, hbegins, htrail, hbody⟩ :=
    exists_definitionBody hne
  rw [hbody]
  refine declaresAutoIncrement_of_marks hbegins (fun items k after hitems hk => ?_) hm
  have hlex : lex text = (before ++ opening :: items) ++ k :: after := by
    rw [hlex, hitems, List.append_assoc]
    rfl
  obtain ⟨hword, hcomma, hends⟩ := Lexeme.text_of_isIncrement hlex hk
  exact ⟨hword, hcomma, Outline.wordEnds_append hends htrail⟩

/-! ## The flags of an engine -/

/-- What every engine makes of AUTOINCREMENT in a definition that it accepts: the keyword stands only
where it is applied to a column, and this one is declared INTEGER and the only one in the key. -/
structure StatesIncrement (text : String) (columns : List CatalogColumn) : Prop where
  place : ∀ l ∈ lex text, l.isIncrement = true →
    ∃ c ∈ columns, appliesIncrement (lex text) c.name = true
  key : ∀ c ∈ columns, appliesIncrement (lex text) c.name = true →
    sameName c.declaredType "INTEGER" = true ∧
      ∀ d ∈ columns, d.isPrimaryKey = true ↔ d.name = c.name

/-- The text of a definition tells which column is autoincremented. -/
structure TellsIncrement (text : String) (columns : List CatalogColumn) : Prop where
  /-- If the word is in the text, then not in comments, strings and names alone. -/
  spoken : Outline.contains ["autoincrement"] none text.toList = true →
    ∃ l ∈ lex text, l.isIncrement = true
  /-- The column that the keyword is applied to is marked. -/
  marked : ∀ c ∈ columns, appliesIncrement (lex text) c.name = true →
    MarksIncrement c.name (behindParenthesis (lex text))

/-- The flags of a table that is read are those of its definition. -/
theorem isAutoIncrement_of_readTable {text name : String} {columns : List CatalogColumn} {table : Table}
    (hread : readTable ⟨name, some text⟩ columns = .ok table) (hstates : StatesIncrement text columns)
    (htells : TellsIncrement text columns) {column : Column} (hcolumn : column ∈ table.columns) :
    column.isAutoIncrement = true ↔ appliesIncrement (lex text) column.name = true := by
  obtain ⟨i, hi⟩ := List.mem_iff_getElem?.1 hcolumn
  obtain ⟨c, hc, hread⟩ := (readColumn_of_readTable hread).2 i column hi
  have hc : c ∈ columns := List.mem_iff_getElem?.2 ⟨i, hc⟩
  obtain ⟨affinity, haffinity, rfl⟩ := readColumn_eq_ok_iff.1 hread
  simp only [Column.declare, Bool.and_eq_true, decide_eq_true_eq]
  constructor
  · rintro ⟨⟨hkey, -⟩, hfound⟩
    obtain ⟨l, hl, hincrement⟩ := htells.spoken (contains_of_declaresAutoIncrement hfound)
    obtain ⟨c', hc', happlies⟩ := hstates.place l hl hincrement
    rw [((hstates.key c' hc' happlies).2 c hc).1 hkey]
    exact happlies
  · intro happlies
    obtain ⟨htype, honly⟩ := hstates.key c hc happlies
    have hinteger : Affinity.ofText c.declaredType = .ok .integer :=
      Outline.ofText_of_sameName (List.all_eq_true.1 (by decide)) htype (by decide)
    rw [hinteger] at haffinity
    exact ⟨⟨(honly c hc).2 rfl, (Except.ok.inj haffinity).symm⟩,
      declares_of_marks (htells.marked c hc happlies)⟩

/-- **The flags of extracted tables**, whatever engine runs the script. A table is read off an entry
of the catalog and the columns that are told of its name. If these are the columns that the text of the
entry defines, as every engine reads it, and the text tells which of them is autoincremented, then a
column is reported to be so just where the definition applies AUTOINCREMENT to it. -/
theorem isAutoIncrement_iff {e : Engine} {script : String} {tables : List Table}
    (hextract : extractTablesBy e script .live = .ok tables) :
    ∃ store entries, Leaves e script store entries ∧
      List.Forall₂ (fun entry table => table.name = entry.name ∧
        ∃ columns, e.columns store entry.name = .ok columns ∧
          table.columns.map (·.name) = columns.map (·.name) ∧
          ∀ text, entry.definition = some text → StatesIncrement text columns →
            TellsIncrement text columns → ∀ column ∈ table.columns,
              (column.isAutoIncrement = true ↔ appliesIncrement (lex text) column.name = true))
        (ownEntries entries) tables := by
  obtain ⟨store, entries, hleaves, hread, -⟩ := extract_eq_ok_iff.1 hextract
  refine ⟨store, entries, hleaves, hread.imp fun entry table hfetch => ?_⟩
  obtain ⟨columns, hcolumns, hread⟩ := fetchTable_eq_ok_iff.1 hfetch
  refine ⟨(readTable_eq_ok_iff.1 hread).1, columns, hcolumns, names_of_readTable hread, ?_⟩
  rintro text hdefinition hstates htells column hcolumn
  obtain ⟨name, _⟩ := entry
  cases hdefinition
  exact isAutoIncrement_of_readTable hread hstates htells hcolumn

/-- A quoted name, a condition and a comment in front of the keyword, which is also a text. -/
def oddIncrementScript : String :=
  "CREATE TABLE Tasks (\n  \"Id\" INTEGER CHECK (\"Id\" > 0) PRIMARY KEY -- the key\n  " ++
    "Autoincrement,\n  note TEXT DEFAULT 'AUTOINCREMENT'\n);"

/-- What the script defines. -/
def oddIncrementDefinition : TableDefinition where
  name := ⟨none, "Tasks"⟩
  isTemporary := false
  ifNotExists := false
  columns :=
    [⟨"Id", "INTEGER", [.check (.binary .greater (.name none "Id" true) (.literal (.integer 0))) "Id",
      .primaryKey false true]⟩,
    ⟨"note", "TEXT", [.default (.literal (.text "AUTOINCREMENT"))]⟩]
  constraints := []
  withoutRowid := false
  source := "Tasks (\n  \"Id\" INTEGER CHECK (\"Id\" > 0) PRIMARY KEY -- the key\n  " ++
    "Autoincrement,\n  note TEXT DEFAULT 'AUTOINCREMENT'\n)"

/-- The text of the definition in the catalog. -/
def oddIncrementText : String :=
  "CREATE TABLE " ++ oddIncrementDefinition.source

/-- The columns in the catalog. -/
def oddIncrementColumns : List CatalogColumn :=
  [⟨"Id", "INTEGER", false, true⟩, ⟨"note", "TEXT", false, false⟩]

/-- The table of the script. -/
def oddIncrementTable : Table :=
  ⟨"Tasks", [⟨"Id", .integer, true, true, false⟩, ⟨"note", .text, false, false, true⟩]⟩

theorem isAutoIncrement_iff_of_oddIncrement :
    extractTablesBy .builtIn oddIncrementScript .live = .ok [oddIncrementTable] ∧
    StatesIncrement oddIncrementText oddIncrementColumns ∧
    TellsIncrement oddIncrementText oddIncrementColumns ∧
    ∀ column ∈ oddIncrementTable.columns,
      (column.isAutoIncrement = true ↔
        appliesIncrement (lex oddIncrementText) column.name = true) := by
  obtain ⟨hextract, hleft⟩ := extract_of_definition oddIncrementScript oddIncrementDefinition
    oddIncrementColumns oddIncrementTable.columns (Text.toList_pieces _ _) (by decide +kernel)
    (by decide +kernel) (by decide) (Text.toList_pieces _ _) (by decide +kernel) (by decide)
  have hlex : lex oddIncrementText = lexChars _ :=
    lex_of_toList ((String.toList_append ..).trans (congrArg _ (Text.toList_pieces _ _)))
  have hstates : StatesIncrement oddIncrementText oddIncrementColumns := by
    constructor <;> rw [hlex] <;> decide +kernel
  have htells : TellsIncrement oddIncrementText oddIncrementColumns := by
    let between : List Lexeme :=
      [wordAt [' '] "INTEGER", wordAt [' '] "CHECK", markAt [' '] '(',
        ⟨[], "\"Id\"".toList, .quotedName "Id" true⟩, ⟨[' '], ['>'], .symbol ">"⟩,
        ⟨[' '], ['0'], .integer "0"⟩, markAt [] ')', wordAt [' '] "PRIMARY", wordAt [' '] "KEY"]
    let keyword := wordAt " -- the key\n  ".toList "Autoincrement"
    have hitems : ⟨"\n  ".toList, "\"Id\"".toList, .quotedName "Id" true⟩ :: (between ++ [keyword]) <+:
        behindParenthesis (lex oddIncrementText) := by
      rw [hlex]
      decide +kernel
    refine ⟨fun _ => ⟨keyword, ?_, by decide⟩, fun c hc happlies => ?_⟩
    · rw [hlex]
      decide +kernel
    · have hid : c.name = "Id" := by
        revert c
        rw [hlex]
        decide +kernel
      rw [hid]
      exact ⟨[], _, between, keyword, hitems, ⟨(['"'], ['"']), by decide, "Id".toList, by decide, rfl⟩,
        by decide, by decide, by decide⟩
  refine ⟨hextract, hstates, htells, ?_⟩
  obtain ⟨store, entries, hleaves, hflags⟩ := isAutoIncrement_iff (e := .builtIn) hextract
  obtain ⟨hentries, htold⟩ := hleft store entries hleaves
  rw [hentries] at hflags
  cases hflags with
  | cons hflag _ =>
    obtain ⟨-, columns, hread, -, hflag⟩ := hflag
    cases htold.symm.trans hread
    exact hflag _ rfl hstates htells

/-- A condition with a comma between the name and the keyword. -/
def conditionScript : String :=
  "CREATE TABLE t (\n  id INTEGER CHECK (id IN (1, 2)) PRIMARY KEY AUTOINCREMENT\n);"

/-- What the script defines. -/
def conditionDefinition : TableDefinition where
  name := ⟨none, "t"⟩
  isTemporary := false
  ifNotExists := false
  columns :=
    [⟨"id", "INTEGER", [.check (.inList (.name none "id" false)
      [.literal (.integer 1), .literal (.integer 2)]) "id IN (1, 2)", .primaryKey false true]⟩]
  constraints := []
  withoutRowid := false
  source := "t (\n  id INTEGER CHECK (id IN (1, 2)) PRIMARY KEY AUTOINCREMENT\n)"

/-- The table that is extracted. -/
def conditionTable : Table :=
  ⟨"t", [⟨"id", .integer, true, false, false⟩]⟩

/-- **A comma loses the flag.** AUTOINCREMENT is applied to the column, and the column is reported
without it. -/
theorem extract_loses_increment :
    extractTablesBy .builtIn conditionScript .live = .ok [conditionTable] ∧
    appliesIncrement (lex ("CREATE TABLE " ++ conditionDefinition.source)) "id" = true ∧
    ∃ column ∈ conditionTable.columns, column.name = "id" ∧ column.isAutoIncrement = false := by
  obtain ⟨hextract, -⟩ := extract_of_definition conditionScript conditionDefinition
    [⟨"id", "INTEGER", false, true⟩] conditionTable.columns String.toList_ofList (by decide +kernel)
    (by decide +kernel) (by decide) String.toList_ofList (by decide +kernel) (by decide)
  refine ⟨hextract, ?_, _, List.mem_singleton_self _, rfl, rfl⟩
  have hlex : lex ("CREATE TABLE " ++ conditionDefinition.source) = lexChars _ :=
    lex_of_toList (Text.toList_pieces _ _)
  rw [hlex]
  decide +kernel

end Catalog

end Tablewright
