import Tablewright.Extraction.Strategy
import Tablewright.Proofs.Outline.Printing
import Tablewright.Proofs.Text.Lines

/-!
# Printed scripts are read back

A script that consists of printed tables and of other lines, none of which begins the definition of
a table, is scanned to the tables that were printed (`extractTables_script`). A line takes the scan
from one state to another whether or not a carriage return at its end is read (`Scan.Reads`), and so
do lines one after the other (`Scan.Passes`).
-/

namespace Tablewright.Outline

open Text

/-! ## Scripts -/

/-- A part of a script. -/
inductive Part
  | table (t : TableDeclaration)
  | other (line : String)
  deriving DecidableEq, Repr

namespace Part

/-- The lines of a part. -/
def lines : Part → List String
  | table t => t.lines
  | other line => [line]

/-- The table that a part declares. -/
def table? : Part → Option Table
  | table t => some t.table
  | other _ => none

/-- Whether a part is a printable table, or a line that does not begin the definition of one. -/
def isPrintable : Part → Bool
  | table t => t.isPrintable
  | other line => '\n' ∉ line.toList && !beginsWithAny tablePhrases (dropBlank line.toList)

end Part

/-- A script: the lines of its parts. -/
def script (parts : List Part) : String :=
  "\n".intercalate (parts.flatMap Part.lines)

/-- The tables that the parts of a script declare. -/
def declaredTables (parts : List Part) : List Table :=
  parts.filterMap Part.table?

/-! ## Passing lines -/

namespace Scan

variable {s s' s'' : Scan}

/-- A line takes a scan from one state to another, as whatever it is read. -/
def Reads (s : Scan) (line : String) (s' : Scan) : Prop :=
  '\n' ∉ line.toList ∧ ∀ read, IsReadAs line read → ∀ number, s.step number read = .ok s'

/-- Lines take a scan from one state to another. -/
inductive Passes : Scan → List String → Scan → Prop
  | nil {s : Scan} : Passes s [] s
  | cons {s s' s'' : Scan} {line : String} {lines : List String} (h : s.Reads line s')
    (hrest : Passes s' lines s'') : Passes s (line :: lines) s''

theorem Passes.append {before after : List String} (h : s.Passes before s')
    (h' : s'.Passes after s'') : s.Passes (before ++ after) s'' := by
  induction h with
  | nil => exact h'
  | cons hline _ ih => exact .cons hline (ih h')

theorem step_empty (s : Scan) (number : Nat) : s.step number "" = .ok s := by
  obtain ⟨tables, _ | t⟩ := s <;> rfl

/-- **The scan of a script goes where its lines take it.** -/
theorem Passes.run {lines : List String} (h : s.Passes lines s') (number : Nat) :
    s.run number (Text.lines ("\n".intercalate lines)) = .ok s' := by
  induction h generalizing number with
  | nil => rfl
  | @cons s s' s'' line rest hline _ ih =>
    obtain ⟨hfeed, hstep⟩ := hline
    obtain ⟨hlines, hempty⟩ | ⟨read, hread, hlines⟩ := lines_intercalate_cons hfeed rest
    · have hsame := hstep line (.inl rfl) number
      rw [hempty, step_empty, Except.ok.injEq] at hsame
      rw [hlines, hsame]
      exact ih number
    · rw [hlines, Scan.run, hstep read hread]
      exact ih (number + 1)

end Scan

/-! ## Other lines -/

/-- A line that opens a table begins the definition of one. -/
theorem beginsWithAny_of_headerName? {cs : List Char} {name : String}
    (h : headerName? cs = some name) : beginsWithAny tablePhrases cs = true := by
  simp only [headerName?, keywords?, Option.bind_eq_bind, Option.bind_eq_some_iff] at h
  obtain ⟨-, ⟨afterCreate, hcreate, afterBlanks, hblanks, afterTable, htable, rest, hrest, -⟩, -⟩ := h
  have hbegins : beginsWith ["create", "table"] cs = true := by
    refine beginsWith_iff.2 ⟨afterTable, ?_, wordEnds_of_blanks? hrest⟩
    simp only [keywords?, Option.bind_eq_bind, hcreate, hblanks, htable, Option.bind_some]
  rw [beginsWithAny, List.any_eq_true]
  exact ⟨_, by simp [tablePhrases], hbegins⟩

theorem ne_empty_of_mem_tablePhrases : ∀ ks ∈ tablePhrases, ks ≠ [] ∧ ∀ k ∈ ks, k ≠ "" := by
  decide

/-- What begins the definition of a table still does with a carriage return at its end. -/
theorem beginsWithAny_return {cs : List Char}
    (h : beginsWithAny tablePhrases (dropBlank cs) = true) :
    beginsWithAny tablePhrases (dropBlank (cs ++ ['\r'])) = true := by
  rw [beginsWithAny, List.any_eq_true] at h ⊢
  obtain ⟨ks, hks, hbegins⟩ := h
  obtain ⟨hne, hnonempty⟩ := ne_empty_of_mem_tablePhrases ks hks
  obtain ⟨rest, hrest, -⟩ := beginsWith_iff.1 hbegins
  have hsome : dropBlank cs ≠ [] := ne_nil_of_keywords? hnonempty hne hrest
  have happend : dropBlank (cs ++ ['\r']) = dropBlank cs ++ ['\r'] := by
    rw [dropBlank] at hsome ⊢
    rw [List.dropWhile_append, if_neg (by simpa using hsome)]
    rfl
  exact ⟨ks, hks, happend ▸ beginsWith_append_return hnonempty hbegins⟩

/-- A line that does not begin the definition of a table is of another kind. -/
theorem classify_of_not_table {line : String}
    (h : beginsWithAny tablePhrases (dropBlank line.toList) = false) :
    (∀ name, Line.classify line ≠ .header name) ∧ Line.classify line ≠ .unsupportedTable := by
  have hheader : headerName? (dropBlank line.toList) = none := by
    rw [Option.eq_none_iff_forall_ne_some]
    intro name hname
    exact Bool.false_ne_true (h.symm.trans (beginsWithAny_of_headerName? hname))
  rw [Line.classify, hheader]
  simp only [h, Bool.false_eq_true, if_false]
  repeat' split
  all_goals simp

/-- **A line that does not begin a table is passed over** outside of tables. -/
theorem reads_other {line : String} (h : (Part.other line).isPrintable = true)
    (tables : List Table) : Scan.Reads ⟨tables, none⟩ line ⟨tables, none⟩ := by
  simp only [Part.isPrintable, Bool.and_eq_true, decide_eq_true_eq, Bool.not_eq_true'] at h
  obtain ⟨hfeed, hbegins⟩ := h
  refine ⟨hfeed, fun read hread number => ?_⟩
  have hread : beginsWithAny tablePhrases (dropBlank read.toList) = false := by
    rw [Bool.eq_false_iff]
    intro htrue
    obtain rfl | rfl := hread
    · exact Bool.false_ne_true (hbegins.symm.trans htrue)
    · rw [String.toList_append] at hbegins
      exact Bool.false_ne_true (hbegins.symm.trans (beginsWithAny_return htrue))
  obtain ⟨hheader, hunsupported⟩ := classify_of_not_table hread
  rw [Scan.step]
  cases hkind : Line.classify read with
  | header name => exact absurd hkind (hheader name)
  | unsupportedTable => exact absurd hkind hunsupported
  | _ => rfl

/-! ## Printed lines -/

/-- Neither a line feed nor a carriage return. -/
def IsUnbroken (cs : List Char) : Prop :=
  '\n' ∉ cs ∧ '\r' ∉ cs

instance (cs : List Char) : Decidable (IsUnbroken cs) :=
  inferInstanceAs (Decidable (_ ∧ _))

theorem isUnbroken_append {cs ds : List Char} (hcs : IsUnbroken cs) (hds : IsUnbroken ds) :
    IsUnbroken (cs ++ ds) := by
  simp only [IsUnbroken, List.mem_append, not_or]
  exact ⟨⟨hcs.1, hds.1⟩, hcs.2, hds.2⟩

theorem isUnbroken_name {name : List Char} (h : ∀ c ∈ name, isPlainNameChar c = true) :
    IsUnbroken name :=
  ⟨fun hmem => absurd (h _ hmem) (by decide), fun hmem => absurd (h _ hmem) (by decide)⟩

/-- A line without a break is read as itself. -/
theorem reads_of_isUnbroken {s s' : Scan} {line : String} (h : IsUnbroken line.toList)
    (hstep : ∀ number, s.step number line = .ok s') : s.Reads line s' := by
  refine ⟨h.1, fun read hread number => ?_⟩
  obtain rfl | rfl := hread
  · exact hstep number
  · refine absurd ?_ h.2
    rw [String.toList_append]
    simp

theorem isUnbroken_columnText {d : ColumnDeclaration} (hd : d.isPrintable = true) {tail : List Char}
    (htail : IsUnbroken tail) : IsUnbroken (columnText d.name.toList d.affinity tail) := by
  have htype : IsUnbroken (' ' :: d.affinity.keyword.toList) := by
    cases d.affinity <;> decide
  exact isUnbroken_append (isUnbroken_name (ColumnDeclaration.name_of_isPrintable hd).1)
    (isUnbroken_append htype htail)

theorem isUnbroken_constraintText : ∀ notNull primaryKey autoIncrement, ∀ separator ∈ separators,
    IsUnbroken (constraintText notNull primaryKey autoIncrement ++ separator).toList := by
  simp only [chars_tail]
  decide +kernel

theorem reads_column {d : ColumnDeclaration} (hd : d.isPrintable = true) {separator : String}
    (hs : separator ∈ separators) (tables : List Table) (t : Table) :
    Scan.Reads ⟨tables, some t⟩ (d.line ++ separator)
      ⟨tables, some ⟨t.name, t.columns ++ [d.column]⟩⟩ := by
  refine reads_of_isUnbroken ?_ fun number => ?_
  · have htail := isUnbroken_constraintText d.notNull d.primaryKey d.autoIncrement separator hs
    have hindent : IsUnbroken [' ', ' '] := by decide
    rw [d.toList_line]
    exact isUnbroken_append hindent (isUnbroken_columnText hd htail)
  · rw [Scan.step, d.classify_line hd hs]
    simp only [d.readColumn_line t.name hs]

/-- **The lines of columns add the columns.** -/
theorem passes_columnLines {ds : List ColumnDeclaration} (hds : ∀ d ∈ ds, d.isPrintable = true)
    (tables : List Table) (t : Table) :
    Scan.Passes ⟨tables, some t⟩ (columnLines ds)
      ⟨tables, some ⟨t.name, t.columns ++ ds.map (·.column)⟩⟩ := by
  induction ds generalizing t with
  | nil =>
    rw [List.map_nil, List.append_nil]
    exact .nil
  | cons d rest ih =>
    have hd := hds d (by simp)
    cases rest with
    | nil =>
      have hlast : "" ∈ separators := by simp [separators]
      have hline := reads_column hd hlast tables t
      rw [String.append_empty] at hline
      exact .cons hline .nil
    | cons e rest =>
      have hcomma : "," ∈ separators := by simp [separators]
      have hline := reads_column hd hcomma tables t
      have hrest := ih (fun d hd => hds d (by simp [hd])) ⟨t.name, t.columns ++ [d.column]⟩
      rw [List.append_assoc] at hrest
      exact .cons hline hrest

theorem reads_header {t : TableDeclaration} (ht : t.isPrintable = true) (tables : List Table) :
    Scan.Reads ⟨tables, none⟩ t.header ⟨tables, some ⟨t.name, []⟩⟩ := by
  refine reads_of_isUnbroken ?_ fun number => ?_
  · have hname : ∀ c ∈ t.name.toList, isPlainNameChar c = true := by
      simp only [TableDeclaration.isPrintable, Bool.and_eq_true, List.all_eq_true] at ht
      exact ht.1.2
    rw [t.toList_header]
    exact isUnbroken_append (by decide)
      (isUnbroken_append (isUnbroken_name hname) (by decide))
  · rw [Scan.step, classify_header ht]
    simp [Scan.finish]

theorem reads_end (tables : List Table) (t : Table) :
    Scan.Reads ⟨tables, some t⟩ ");" ⟨tables ++ [t], none⟩ :=
  reads_of_isUnbroken (by decide) fun _ => rfl

/-- **The lines of a table add the table.** -/
theorem passes_table {t : TableDeclaration} (ht : t.isPrintable = true) (tables : List Table) :
    Scan.Passes ⟨tables, none⟩ t.lines ⟨tables ++ [t.table], none⟩ := by
  have hcolumns : ∀ d ∈ t.columns, d.isPrintable = true := by
    simp only [TableDeclaration.isPrintable, Bool.and_eq_true, List.all_eq_true] at ht
    exact ht.2
  refine .cons (reads_header ht tables) ?_
  exact (passes_columnLines hcolumns tables ⟨t.name, []⟩).append
    (.cons (reads_end tables t.table) .nil)

/-! ## Whole scripts -/

theorem passes_parts {parts : List Part} (h : parts.all Part.isPrintable = true)
    (tables : List Table) :
    Scan.Passes ⟨tables, none⟩ (parts.flatMap Part.lines) ⟨tables ++ declaredTables parts, none⟩ := by
  induction parts generalizing tables with
  | nil =>
    rw [declaredTables, List.filterMap_nil, List.append_nil]
    exact .nil
  | cons part rest ih =>
    rw [List.all_cons, Bool.and_eq_true] at h
    obtain ⟨hpart, hrest⟩ := h
    rw [List.flatMap_cons]
    cases part with
    | table t =>
      have happend : tables ++ declaredTables (.table t :: rest) =
          tables ++ [t.table] ++ declaredTables rest := by
        rw [List.append_assoc]
        rfl
      rw [happend]
      exact (passes_table hpart tables).append (ih hrest _)
    | other line => exact .cons (reads_other hpart tables) (ih hrest tables)

/-- The scan of a script finds the tables that it declares. -/
theorem scan_script {parts : List Part} (h : parts.all Part.isPrintable = true) :
    scan (script parts) = .ok (declaredTables parts) := by
  rw [scan, script, Scan.start, (passes_parts h []).run 1]
  simp [Scan.finish]

/-- **Printed tables are extracted from their script**, whatever other lines stand around them. -/
theorem extractTables_script (parts : List Part) (h : parts.all Part.isPrintable = true)
    (hvalid : firstProblem? (declaredTables parts) = none) :
    extractTables (script parts) .pattern = .ok (declaredTables parts) := by
  have hextract : extract (script parts) = validated (declaredTables parts) := by
    rw [extract, scan_script h]
  have hscript : extractTables (script parts) .pattern = extract (script parts) := rfl
  rw [hscript, hextract, validated, hvalid]

/-- A table among lines that would be read inside of one. -/
def mixedScript : List Part :=
  [.other "-- CREATE TABLE old (\r", .other "  price REAL,", .other ");",
    .table ⟨"2nd_table", [⟨"id", .integer, true, true, true⟩, ⟨"Primary", .text, false, false, false⟩,
      ⟨"create", .blob, true, false, false⟩]⟩,
    .other "CREATE INDEX byPrimary ON 2nd_table(Primary);", .other ""]

theorem extractTables_script_of_mixedScript :
    script mixedScript =
        "-- CREATE TABLE old (\r\n  price REAL,\n);\nCREATE TABLE IF NOT EXISTS 2nd_table (\n" ++
        "  id INTEGER NOT NULL PRIMARY KEY AUTOINCREMENT,\n  Primary TEXT,\n" ++
        "  create BLOB NOT NULL\n);\nCREATE INDEX byPrimary ON 2nd_table(Primary);\n" ∧
      mixedScript.all Part.isPrintable = true ∧
      firstProblem? (declaredTables mixedScript) = none ∧
      extractTables (script mixedScript) .pattern = .ok (declaredTables mixedScript) := by
  have hprintable : mixedScript.all Part.isPrintable = true := by decide +kernel
  have hvalid : firstProblem? (declaredTables mixedScript) = none := by decide
  refine ⟨by decide +kernel, hprintable, hvalid, ?_⟩
  exact extractTables_script mixedScript hprintable hvalid

end Tablewright.Outline
