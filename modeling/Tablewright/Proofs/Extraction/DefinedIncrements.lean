import Tablewright.Proofs.Database.IncrementedKey
import Tablewright.Proofs.Extraction.IncrementFlags

/-!
# Autoincremented columns of the built-in engine

Of a table that the built-in engine stores, the definition is known: the flag of a column is the right
one if the search finds the keyword for the column that AUTOINCREMENT is applied to, and finds it for
none if it is applied to none (`isAutoIncrement_eq_increments`). Both can be told from the lexemes of
the definition in its script (`ShowsIncrement`), so the flags of an extracted table that is not hidden
are those of its definition (`isAutoIncrement_iff_increments`).
-/

namespace Tablewright.Catalog

open Sql Text

/-! ## What the search decides -/

/-- A column of the catalog is one of the table. -/
theorem exists_of_catalogColumns_getElem? {t : StoredTable} {i : Nat} {c : CatalogColumn}
    (h : t.catalogColumns[i]? = some c) : ∃ stored, t.columns[i]? = some stored ∧
      c = ⟨stored.name, stored.declaredType, stored.isNotNull, t.primaryKey.contains i⟩ := by
  rw [StoredTable.catalogColumns, List.getElem?_mapIdx, Option.map_eq_some_iff] at h
  obtain ⟨stored, hstored, rfl⟩ := h
  exact ⟨stored, hstored, rfl⟩

/-- **The search decides about the flag.** It is the right one if the keyword is found for the column
that it is applied to, and found for no column if it is applied to none. -/
theorem isAutoIncrement_eq_increments {d : TableDefinition} {t : StoredTable} {i : Nat}
    {c : CatalogColumn} {column : Column} {table : String} {body : List Char}
    (hd : StoredTable.ofDefinition? d = some t.emptied) (hc : t.catalogColumns[i]? = some c)
    (hread : readColumn table body c = .ok column)
    (hfound : d.increments i = true → declaresAutoIncrement body c.name = true)
    (hdeclared : declaresAutoIncrement body c.name = true →
      Grammar.columnsIncrement d.columns ∨ Grammar.tableIncrements d.constraints) :
    column.isAutoIncrement = d.increments i := by
  obtain ⟨stored, hstored, rfl⟩ := exists_of_catalogColumns_getElem? hc
  obtain ⟨affinity, haffinity, rfl⟩ := readColumn_eq_ok_iff.1 hread
  rw [Bool.eq_iff_iff]
  simp only [Column.declare, Bool.and_eq_true, decide_eq_true_eq]
  constructor
  · rintro ⟨⟨hkey, -⟩, hsearch⟩
    obtain ⟨p, hp, hincrements⟩ := StoredTable.exists_increments hd (hdeclared hsearch)
    have hkey' : i ∈ t.emptied.primaryKey := List.contains_iff_mem.1 hkey
    rw [hp, List.mem_singleton] at hkey'
    rwa [hkey']
  · intro h
    obtain ⟨hkey, stored', hstored', htype⟩ := StoredTable.primaryKey_of_increments hd h
    have hkey' : t.primaryKey = [i] := hkey
    obtain rfl : stored = stored' := Option.some.inj (hstored.symm.trans hstored')
    have hinteger : Affinity.ofText "INTEGER" = .ok .integer := by decide
    rw [htype, hinteger] at haffinity
    exact ⟨⟨by simp [hkey'], (Except.ok.inj haffinity).symm⟩, hfound h⟩

/-! ## The text of a definition -/

/-- The first parenthesis stands in front of what follows it. -/
theorem eq_append_afterParenthesis {cs : List Char} (h : '(' ∈ cs) :
    cs = cs.takeWhile (· != '(') ++ '(' :: afterParenthesis cs := by
  have hcut := List.takeWhile_append_dropWhile (p := (· != '(')) (l := cs)
  cases hbehind : cs.dropWhile (· != '(') with
  | nil =>
    have := (List.dropWhile_eq_nil_iff.1 hbehind) _ h
    simp at this
  | cons c behind =>
    obtain rfl : c = '(' := by
      have := List.head?_dropWhile_not (· != '(') cs
      simpa [hbehind] using this
    rw [afterParenthesis, hbehind]
    rw [hbehind] at hcut
    exact hcut.symm

/-- The body of a definition follows the first parenthesis of its source. -/
theorem definitionBody_catalogEntry {t : StoredTable} (h : '(' ∈ t.source.toList) :
    definitionBody t.catalogEntry.definition = afterParenthesis t.source.toList := by
  have hne : t.source.toList.dropWhile (· != '(') ≠ [] := by
    rw [Ne, List.dropWhile_eq_nil_iff]
    intro hall
    simpa using hall _ h
  have htext : ("CREATE TABLE " ++ t.source).toList.dropWhile (· != '(') =
      t.source.toList.dropWhile (· != '(') := by
    rw [String.toList_append, List.dropWhile_append_of_pos]
    exact List.all_eq_true.1 (by decide)
  rw [StoredTable.catalogEntry, definitionBody, Option.getD_some, afterParenthesis, afterParenthesis,
    htext]
  split
  · contradiction
  · rfl

/-! ## What the lexemes tell -/

/-- What stands behind the first parenthesis of a statement that was read from `own` on, up to
`rest`. -/
def definitionItems (own rest : List Lexeme) : List Lexeme :=
  behindParenthesis (own.take (own.length - rest.length))

/-- The lexemes of a definition show which column is autoincremented. -/
structure ShowsIncrement (d : TableDefinition) (items : List Lexeme) : Prop where
  /-- If the word is in the text, then not in comments, strings and names alone. -/
  spoken : Outline.contains ["autoincrement"] none d.source.toList = true →
    ∃ l ∈ items, l.isIncrement = true
  /-- The column that the keyword is applied to is marked. -/
  marked : ∀ i c, d.increments i = true → d.columns[i]? = some c → MarksIncrement c.name items

section Lexemes

variable {script : String} {d : TableDefinition} {t : StoredTable} {own rest lexemes : List Lexeme}

theorem exists_append_of_isReadIn {s : Statement} (h : Database.IsReadIn s own rest lexemes) :
    ∃ before, lexemes = before ++ own := by
  induction h with
  | first => exact ⟨[], rfl⟩
  | later hread _ ih =>
    obtain ⟨before, rfl⟩ := ih
    obtain ⟨front, rfl⟩ := readStatement_suffix hread
    exact ⟨front ++ before, by simp⟩

/-- The lexemes of a definition in a script. -/
theorem exists_definition (h : Database.IsReadIn (.createTable d) own rest lexemes) :
    ∃ front before name opening items ending,
      lexemes = front ++ name :: opening :: (items ++ (ending ++ rest)) ∧
      (∀ l ∈ ending, l.token = .symbol ";") ∧ definitionItems own rest = items ++ ending ∧
      Grammar.IsDefinition d before name opening items (ending ++ rest) := by
  obtain ⟨front, rfl⟩ := exists_append_of_isReadIn h
  obtain ⟨empty, _, rfl, hempty, hrun⟩ := exists_of_readStatement h.readStatement
  obtain ⟨before, name, opening, items, ending, rfl, hending, hd⟩ :=
    Grammar.exists_of_statement hrun
  refine ⟨front ++ (empty ++ before), before, name, opening, items, ending, by simp, hending, ?_, hd⟩
  have hown : empty ++ (before ++ name :: opening :: (items ++ ending ++ rest)) =
      (empty ++ (before ++ [name])) ++ opening :: (items ++ ending) ++ rest := by
    simp
  have hfront : ∀ l ∈ empty ++ (before ++ [name]), l.token ≠ .symbol "(" := by
    intro l hl
    simp only [List.mem_append, List.mem_singleton] at hl
    rcases hl with hl | hl | rfl
    · rw [hempty l hl]
      decide
    · exact hd.token_before l hl
    · exact hd.token_name
  rw [definitionItems, behindParenthesis, hown, Grammar.take_length_sub,
    List.dropWhile_append_of_pos (by simpa using hfront), List.dropWhile_cons,
    if_neg (by simpa using hd.token_opening)]
  rfl

/-- A keyword at the end of a beginning stands in front of the ending. -/
theorem prefix_of_ending {ls items ending : List Lexeme} {k : Lexeme} (hk : k.isIncrement = true)
    (hending : ∀ l ∈ ending, l.token = .symbol ";") (h : ls ++ [k] <+: items ++ ending) :
    ls ++ [k] <+: items := by
  rcases List.prefix_or_prefix_of_prefix h (List.prefix_append items ending) with hitems | hitems
  · exact hitems
  · obtain ⟨more, hmore⟩ := hitems
    rw [← hmore, List.prefix_append_right_inj] at h
    rcases List.eq_nil_or_concat more with rfl | ⟨others, last, rfl⟩
    · exact ⟨[], by simpa using hmore.symm⟩
    · rw [List.concat_eq_append, ← List.append_assoc] at hmore
      obtain ⟨-, hlast⟩ := List.append_inj' hmore rfl
      cases hlast
      have hmem := hending k (h.subset (by simp))
      rw [Lexeme.isIncrement, hmem] at hk
      cases hk

/-- The source of a definition: something that holds a parenthesis, and the text of what is behind
it. -/
theorem definitionBody_of_isDefinition {front before items behind : List Lexeme}
    {name opening : Lexeme} (hlex : lex script = front ++ name :: opening :: (items ++ behind))
    (hd : Grammar.IsDefinition d before name opening items behind) (hsource : t.source = d.source) :
    ∃ start trail, trail <+: textOf behind ∧ nameBegins start = true ∧
      definitionBody t.catalogEntry.definition = start ++ (textOf items ++ trail) ∧
      d.source.toList = d.source.toList.takeWhile (· != '(') ++ '(' :: definitionBody t.catalogEntry.definition := by
  obtain ⟨trail, htrail, heq⟩ := hd.source
  have hopening : opening.text = ['('] := by
    have hcut : lex script = (front ++ [name]) ++ opening :: (items ++ behind) := by simpa using hlex
    have htaken := isTaken_of_lex hcut (by rw [hd.token_opening]; nofun)
    rw [hd.token_opening] at htaken
    exact htaken
  have htext : d.source.toList = name.text ++ opening.gap ++ '(' :: (textOf items ++ trail) := by
    rw [heq, String.toList_ofList, sourceOf]
    change name.text ++ textOf (opening :: items) ++ trail = _
    rw [textOf_cons, hopening]
    simp
  have hmem : '(' ∈ d.source.toList := by
    rw [htext]
    simp
  obtain ⟨start, hstart, hbegins⟩ :=
    exists_append_afterParenthesis (name.text ++ opening.gap) (textOf items ++ trail)
  have hbody : definitionBody t.catalogEntry.definition = afterParenthesis d.source.toList := by
    rw [definitionBody_catalogEntry (by rw [hsource]; exact hmem), hsource]
  refine ⟨start, trail, htrail, hbegins, ?_, ?_⟩
  · rw [hbody, htext, hstart]
  · rw [hbody]
    exact eq_append_afterParenthesis hmem

/-- **A column that is marked is found.** -/
theorem declares_of_marksIncrement {name : String}
    (h : Database.IsReadIn (.createTable d) own rest (lex script)) (hsource : t.source = d.source)
    (hm : MarksIncrement name (definitionItems own rest)) :
    declaresAutoIncrement (definitionBody t.catalogEntry.definition) name = true := by
  obtain ⟨front, _, n, opening, items, ending, hlex, hending, hitems, hd⟩ := exists_definition h
  obtain ⟨start, trail, htrail, hstart, hbody, -⟩ := definitionBody_of_isDefinition hlex hd hsource
  have hm' : MarksIncrement name items := by
    obtain ⟨before, m, between, k, hprefix, hname, hbegins, hk, hseparates⟩ := hm
    rw [hitems, ← List.cons_append, ← List.append_assoc] at hprefix
    refine ⟨before, m, between, k, ?_, hname, hbegins, hk, hseparates⟩
    rw [← List.cons_append, ← List.append_assoc]
    exact prefix_of_ending hk hending hprefix
  rw [hbody]
  refine declaresAutoIncrement_of_marks hstart (fun before k after hcut hk => ?_) hm'
  have hlex : lex script = (front ++ n :: opening :: before) ++ k :: (after ++ (ending ++ rest)) := by
    rw [hlex, hcut]
    simp
  obtain ⟨hword, hcomma, hends⟩ := Lexeme.text_of_isIncrement hlex hk
  refine ⟨hword, hcomma, ?_⟩
  obtain ⟨more, hmore⟩ := htrail
  rw [textOf_append, ← hmore, ← List.append_assoc] at hends
  cases hcut : textOf after ++ trail with
  | nil => rfl
  | cons c cut =>
    rw [hcut] at hends
    exact hends

/-- **What is found is declared**, if the word does not stand in comments, strings and names alone. -/
theorem declared_of_declaresAutoIncrement {name : String}
    (h : Database.IsReadIn (.createTable d) own rest (lex script)) (hsource : t.source = d.source)
    (hspoken : Outline.contains ["autoincrement"] none d.source.toList = true →
      ∃ l ∈ definitionItems own rest, l.isIncrement = true)
    (hfound : declaresAutoIncrement (definitionBody t.catalogEntry.definition) name = true) :
    Grammar.columnsIncrement d.columns ∨ Grammar.tableIncrements d.constraints := by
  obtain ⟨front, _, n, opening, items, ending, hlex, hending, hitems, hd⟩ := exists_definition h
  obtain ⟨-, -, -, -, -, htext⟩ := definitionBody_of_isDefinition hlex hd hsource
  have hcontains : Outline.contains ["autoincrement"] none d.source.toList = true := by
    rw [htext]
    exact Outline.contains_append_left _ (contains_of_declaresIncrement _ hfound)
  obtain ⟨l, hl, hincrement⟩ := hspoken hcontains
  rw [hitems] at hl
  rcases List.mem_append.1 hl with hl | hl
  · exact hd.increments l hl hincrement
  · rw [Lexeme.isIncrement, hending l hl] at hincrement
    cases hincrement

end Lexemes

/-! ## Every column -/

/-- An extracted table comes from a definition in the script, read from `own` on, up to `rest`. -/
structure IsSource (script : String) (table : Table) (d : TableDefinition) (own rest : List Lexeme) :
    Prop where
  read : Database.IsReadIn (.createTable d) own rest (lex script)
  stored : ∃ t ∈ (Database.empty.runScript 0 script).database.main.tables,
    t.name = table.name ∧ StoredTable.ofDefinition? d = some t.emptied

/-- **The flags of an extracted table** of the built-in engine. A table that no temporary relation hides
comes from a definition in the script. Of every definition that it comes from it has the columns, and
if the lexemes of the definition show which of them is autoincremented, then a column is reported to
be so just where the definition applies AUTOINCREMENT to it. -/
theorem isAutoIncrement_iff_increments {script : String} {tables : List Table}
    (hextract : extractTables script .live = .ok tables) {table : Table} (hmem : table ∈ tables)
    (hvisible :
      (Database.empty.runScript 0 script).database.temporary.hasRelation table.name = false) :
    (∃ d own rest, IsSource script table d own rest) ∧
      ∀ d own rest, IsSource script table d own rest →
        table.columns.map (·.name) = d.columns.map (·.name) ∧
        (ShowsIncrement d (definitionItems own rest) → ∀ i column, table.columns[i]? = some column →
          (column.isAutoIncrement = true ↔ d.increments i = true)) := by
  obtain ⟨t, ht, hname, kind, front, hfind, hread⟩ := exists_of_extractTables hextract hmem
  obtain ⟨hdefined, hdistinct⟩ := Database.runScript_history script 0 .main
  -- the name means the table of the main schema, since nothing temporary has it
  obtain rfl : t = front := by
    have hmain := Database.findTable?_main (hname ▸ hvisible) (Schema.table?_of_mem ht hdistinct)
    rw [hmain] at hfind
    cases hfind
    rfl
  constructor
  · obtain ⟨d, own, rest, hin, hd⟩ := hdefined t ht
    exact ⟨d, own, rest, hin, t, ht, hname.symm, hd⟩
  rintro d own rest ⟨hin, t', ht', hname', hd⟩
  obtain rfl : t = t' := by
    have hfound := Schema.table?_of_mem ht hdistinct
    rw [← hname, ← hname', Schema.table?_of_mem ht' hdistinct] at hfound
    exact (Option.some.inj hfound).symm
  have hsource : t.source = d.source := by
    obtain ⟨_, _, _, -, -, -, -, heq⟩ := StoredTable.exists_of_ofDefinition? hd
    exact congrArg StoredTable.source heq
  have hnames : t.emptied.columns.map (·.name) = d.columns.map (·.name) :=
    StoredTable.names_of_ofDefinition? hd
  have hnames : t.columns.map (·.name) = d.columns.map (·.name) := hnames
  refine ⟨(names_of_readTable hread).trans ((names_catalogColumns t).trans hnames),
    fun hshows i column hi => ?_⟩
  obtain ⟨c, hc, hcolumn⟩ := (readColumn_of_readTable hread).2 i column hi
  rw [isAutoIncrement_eq_increments hd hc hcolumn]
  · intro hincrements
    obtain ⟨c', hc', hsame⟩ : ∃ c', d.columns[i]? = some c' ∧ c'.name = c.name := by
      have := congrArg (·[i]?) ((names_catalogColumns t).trans hnames)
      simp only [List.getElem?_map, hc, Option.map_some] at this
      exact Option.map_eq_some_iff.1 this.symm
    exact hsame ▸ declares_of_marksIncrement hin hsource (hshows.marked i c' hincrements hc')
  · exact declared_of_declaresAutoIncrement hin hsource hshows.spoken

end Tablewright.Catalog
