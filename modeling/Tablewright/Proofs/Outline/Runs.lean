import Mathlib.Data.List.TakeWhile
import Tablewright.Outline.Scan
import Tablewright.Proofs.FallibleSteps

/-!
# Runs of a scan

A line with a fault stops a scan; every other line opens a table, closes one, adds a column or is
passed over (`Scan.step_cases`). Lines are read one after the other (`run_append`): outside of a
table those that open none are passed over (`run_front`), and inside a table every line adds what it
tells (`run_columns`). So of a script that is laid out in lines (`IsLayout`), where every table has a
header line, lines for its columns and a closing line, a scan finds the tables that the lines tell of
(`eq_tables_of_scan`).
-/

namespace Tablewright.Outline

/-! ## Lines -/

/-- The column that a line of a table tells of, none if the line is passed over. -/
def toldColumn? (table line : String) : Option Column :=
  match Line.classify line with
  | .column parts => (readColumn table parts).toOption
  | _ => none

/-- Whether a line begins the definition of a table. -/
def beginsTable (line : String) : Bool :=
  match Line.classify line with
  | .header _ | .unsupportedTable => true
  | _ => false

/-- Whether a line is the first or the last one of a table. -/
def isBoundary (line : String) : Bool :=
  match Line.classify line with
  | .header _ | .tableEnd => true
  | _ => false

/-- The line of a column is inside of its table. -/
theorem isBoundary_column {line : String} {parts : ColumnLine}
    (hclass : Line.classify line = .column parts) : isBoundary line = false := by
  rw [isBoundary, hclass]

theorem readColumn_eq_error_iff {table : String} {parts : ColumnLine} {e : ExtractionError} :
    readColumn table parts = .error e ↔
      (∃ unknown, Affinity.ofText parts.declaredType = .error unknown) ∧
        e = .unknownType table parts.name parts.declaredType := by
  rw [readColumn]
  cases Affinity.ofText parts.declaredType <;> simp [eq_comm]

/-- Why the line of a number is not understood, in the table that it stands in, if any. -/
inductive Fault (standsIn : String → Prop) (number : Nat) (line : String) : ScanError → Prop
  /-- It begins the definition of a table in another layout. -/
  | unsupportedTable (hclass : Line.classify line = .unsupportedTable) :
    Fault standsIn number line
      ⟨number, .script (.unsupportedTable number (Text.trimBlank line))⟩
  /-- It defines a column, with a type that is no affinity. -/
  | unknownType {table : String} {parts : ColumnLine} {unknown : UnknownAffinity}
    (hclass : Line.classify line = .column parts) (hin : standsIn table)
    (htype : Affinity.ofText parts.declaredType = .error unknown) :
    Fault standsIn number line ⟨number, .unknownType table parts.name parts.declaredType⟩

theorem Fault.line_eq {standsIn : String → Prop} {number : Nat} {line : String} {e : ScanError}
    (h : Fault standsIn number line e) : e.line = number := by
  cases h <;> rfl

/-! ## One line -/

namespace Scan

/-- What a line without a fault does to a scan. -/
inductive Advances (s : Scan) (line : String) : Scan → Prop
  | opens {table : String} (hclass : Line.classify line = .header table) :
    Advances s line ⟨s.finish, some ⟨table, []⟩⟩
  | closes (hclass : Line.classify line = .tableEnd) : Advances s line ⟨s.finish, none⟩
  | adds {t : Table} {parts : ColumnLine} {column : Column} (hopen : s.current = some t)
    (hclass : Line.classify line = .column parts) (hread : readColumn t.name parts = .ok column) :
    Advances s line ⟨s.tables, some ⟨t.name, t.columns ++ [column]⟩⟩
  /-- A column line is passed over outside of tables, and other lines are anywhere. -/
  | passes (hboundary : isBoundary line = false) (hclass : Line.classify line ≠ .unsupportedTable)
    (hcolumn : ∀ parts, Line.classify line = .column parts → s.current = none) : Advances s line s

variable {s s' : Scan} {line : String} {number : Nat} {e : ScanError}

/-- Whether a scan is inside the table of a name. -/
def IsIn (s : Scan) (table : String) : Prop :=
  s.current.map (·.name) = some table

theorem isIn_iff {table : String} : s.IsIn table ↔ ∃ t, s.current = some t ∧ t.name = table :=
  Option.map_eq_some_iff

/-- **What a step can do**: it stops at a fault, or it advances. -/
theorem step_cases (s : Scan) (number : Nat) (line : String) :
    (∃ e, s.step number line = .error e ∧ Fault s.IsIn number line e) ∨
      ∃ s', s.step number line = .ok s' ∧ s.Advances line s' := by
  obtain ⟨tables, current⟩ := s
  rw [step]
  cases hclass : Line.classify line with
  | header table => exact .inr ⟨_, rfl, .opens hclass⟩
  | unsupportedTable => exact .inl ⟨_, rfl, .unsupportedTable hclass⟩
  | tableEnd =>
    cases current with
    | none => exact .inr ⟨_, rfl, by simpa [finish] using Advances.closes (s := ⟨tables, none⟩) hclass⟩
    | some t => exact .inr ⟨_, rfl, .closes hclass⟩
  | column parts =>
    have hboundary := isBoundary_column hclass
    cases current with
    | none => exact .inr ⟨_, rfl, .passes hboundary (by simp [hclass]) fun _ _ => rfl⟩
    | some t =>
      simp only
      cases hread : readColumn t.name parts with
      | error e =>
        obtain ⟨⟨unknown, htype⟩, rfl⟩ := readColumn_eq_error_iff.1 hread
        exact .inl ⟨_, rfl, .unknownType hclass rfl htype⟩
      | ok column => exact .inr ⟨_, rfl, .adds rfl hclass hread⟩
  | skippedStatement | tableConstraint | other =>
    exact .inr ⟨_, rfl, .passes (by simp [isBoundary, hclass]) (by simp [hclass]) (by simp [hclass])⟩

/-- **A step stops exactly at the lines with a fault.** -/
theorem step_eq_error_iff : s.step number line = .error e ↔ Fault s.IsIn number line e := by
  constructor
  · intro h
    obtain ⟨e', he', hfault⟩ | ⟨s', hs', -⟩ := step_cases s number line
    · obtain rfl : e' = e := by simpa [he'] using h
      exact hfault
    · simp [hs'] at h
  · intro h
    cases h with
    | unsupportedTable hclass => rw [step, hclass]
    | unknownType hclass hin htype =>
      obtain ⟨t, hopen, rfl⟩ := isIn_iff.1 hin
      simp [step, hclass, hopen, readColumn, htype]

theorem advances_of_step (h : s.step number line = .ok s') : s.Advances line s' := by
  obtain ⟨e, he, -⟩ | ⟨s₁, hs₁, hadvances⟩ := step_cases s number line
  · simp [he] at h
  · obtain rfl : s₁ = s' := by simpa [hs₁] using h
    exact hadvances

end Scan

/-! ## Lines one after the other -/

section Scans

variable {s s' : Scan} {tables : List Table} {t : Table} {line : String} {number : Nat}

theorem run_append (s : Scan) (number : Nat) (before after : List String) :
    s.run number (before ++ after) =
      s.run number before >>= fun middle => middle.run (number + before.length) after := by
  induction before generalizing s number with
  | nil => rfl
  | cons line before ih =>
    rw [List.cons_append, Scan.run, Scan.run]
    cases s.step number line with
    | error e => rfl
    | ok s₁ =>
      rw [ok_bind, ok_bind, ih, List.length_cons]
      congr! 3
      omega

theorem run_concat (s : Scan) (number : Nat) (before : List String) (line : String) :
    s.run number (before ++ [line]) =
      s.run number before >>= fun middle => middle.step (number + before.length) line := by
  rw [run_append]
  congr 1
  funext middle
  rw [Scan.run]
  cases middle.step (number + before.length) line <;> rfl

theorem exists_of_run_append {before after : List String}
    (h : s.run number (before ++ after) = .ok s') :
    ∃ middle number', s.run number before = .ok middle ∧ middle.run number' after = .ok s' := by
  rw [run_append] at h
  obtain ⟨middle, hbefore, hafter⟩ := exists_of_bind_eq_ok h
  exact ⟨middle, _, hbefore, hafter⟩

/-- Outside of a table, lines that open none are passed over. -/
theorem run_front {lines : List String} (hlines : ∀ line ∈ lines, beginsTable line = false)
    (h : Scan.run ⟨tables, none⟩ number lines = .ok s') : s' = ⟨tables, none⟩ := by
  induction lines generalizing number with
  | nil => exact (Except.ok.inj h).symm
  | cons line lines ih =>
    have hline := hlines line List.mem_cons_self
    rw [Scan.run] at h
    obtain ⟨s₁, hstep, h⟩ := exists_of_bind_eq_ok h
    obtain rfl : s₁ = ⟨tables, none⟩ := by
      cases Scan.advances_of_step hstep with
      | opens hclass => simp [beginsTable, hclass] at hline
      | closes => simp [Scan.finish]
      | adds hopen => cases hopen
      | passes => rfl
    exact ih (fun l hl => hlines l (List.mem_cons_of_mem line hl)) h

/-- Inside a table, a line adds the column that it tells of. -/
theorem step_column (hline : isBoundary line = false)
    (h : Scan.step ⟨tables, some t⟩ number line = .ok s') :
    s' = ⟨tables, some ⟨t.name, t.columns ++ (toldColumn? t.name line).toList⟩⟩ := by
  cases Scan.advances_of_step h with
  | opens hclass | closes hclass => simp [isBoundary, hclass] at hline
  | adds hopen hclass hread =>
    cases hopen
    simp [toldColumn?, hclass, hread, Except.toOption]
  | passes _ _ hcolumn =>
    have htold : toldColumn? t.name line = none := by
      rw [toldColumn?]
      split
      · rename_i parts hclass
        cases hcolumn parts hclass
      · rfl
    simp [htold]

/-- **The lines of a table add what they tell.** -/
theorem run_columns {lines : List String}
    (hlines : ∀ line ∈ lines, isBoundary line = false)
    (h : Scan.run ⟨tables, some t⟩ number lines = .ok s') :
    s' = ⟨tables, some ⟨t.name, t.columns ++ lines.filterMap (toldColumn? t.name)⟩⟩ := by
  induction lines generalizing t number with
  | nil => simpa [Scan.run, eq_comm] using h
  | cons line lines ih =>
    rw [Scan.run] at h
    obtain ⟨s₁, hstep, h⟩ := exists_of_bind_eq_ok h
    obtain rfl := step_column (hlines line List.mem_cons_self) hstep
    rw [ih (fun l hl => hlines l (List.mem_cons_of_mem line hl)) h, List.filterMap_cons]
    cases toldColumn? t.name line <;> simp

end Scans

/-! ## Scripts that are laid out in lines -/

/-- The lines of a table: its header, one for each column, the closing line, and what stands behind it
in front of the next table. -/
structure Block where
  name : String
  header : String
  columns : List String
  closing : String
  behind : List String

/-- All lines of a table. -/
def Block.lines (b : Block) : List String :=
  b.header :: (b.columns ++ b.closing :: b.behind)

/-- The lines of a table are what they should be. -/
structure Block.IsLaidOut (b : Block) : Prop where
  header : Line.classify b.header = .header b.name
  columns : ∀ line ∈ b.columns, isBoundary line = false
  closing : Line.classify b.closing = .tableEnd
  behind : ∀ line ∈ b.behind, beginsTable line = false

/-- A script consists of tables, each with its own lines, and of lines in front of them. -/
structure IsLayout (script : String) (front : List String) (blocks : List Block) : Prop where
  lines : Text.lines script = front ++ blocks.flatMap (·.lines)
  front : ∀ line ∈ front, beginsTable line = false
  blocks : ∀ b ∈ blocks, b.IsLaidOut

/-- The table that lines tell of. -/
def Block.told (b : Block) : Table :=
  ⟨b.name, b.columns.filterMap (toldColumn? b.name)⟩

/-- Every column line is read. -/
def Block.IsRead (b : Block) : Prop :=
  ∀ line ∈ b.columns, ∀ parts, Line.classify line = .column parts →
    ∃ column, readColumn b.name parts = .ok column

section Layouts

variable {b : Block} {blocks : List Block} {script : String} {front : List String}
  {tables : List Table} {t : Table} {number : Nat} {s' : Scan}

/-- A run inside of a table reads every column line. -/
theorem isRead_of_run {lines : List String} (hlines : ∀ line ∈ lines, isBoundary line = false)
    (h : Scan.run ⟨tables, some t⟩ number lines = .ok s') :
    ∀ line ∈ lines, ∀ parts, Line.classify line = .column parts →
      ∃ column, readColumn t.name parts = .ok column := by
  induction lines generalizing t number with
  | nil => nofun
  | cons line lines ih =>
    rw [Scan.run] at h
    obtain ⟨s₁, hstep, h⟩ := exists_of_bind_eq_ok h
    obtain rfl := step_column (hlines line List.mem_cons_self) hstep
    have hothers := ih (fun l hl => hlines l (List.mem_cons_of_mem line hl)) h
    refine List.forall_mem_cons.2 ⟨fun parts hclass => ?_, hothers⟩
    rw [Scan.step, hclass] at hstep
    cases hread : readColumn t.name parts with
    | ok column => exact ⟨column, rfl⟩
    | error e => simp [hread] at hstep

/-- The lines of a table add the table. -/
theorem run_block (h : b.IsLaidOut) (hrun : Scan.run ⟨tables, none⟩ number b.lines = .ok s') :
    s' = ⟨tables ++ [b.told], none⟩ ∧ b.IsRead := by
  rw [Block.lines, Scan.run] at hrun
  obtain ⟨s₁, hheader, hrun⟩ := exists_of_bind_eq_ok hrun
  obtain rfl : s₁ = ⟨tables, some ⟨b.name, []⟩⟩ := by
    rw [Scan.step, h.header] at hheader
    simpa [Scan.finish, eq_comm] using hheader
  obtain ⟨s₂, _, hcolumns, hrun⟩ := exists_of_run_append hrun
  have hread := isRead_of_run h.columns hcolumns
  obtain rfl := run_columns h.columns hcolumns
  rw [Scan.run] at hrun
  obtain ⟨s₃, hend, hbehind⟩ := exists_of_bind_eq_ok hrun
  obtain rfl : s₃ = ⟨tables ++ [b.told], none⟩ := by
    rw [Scan.step, h.closing] at hend
    simpa [Scan.finish, Block.told, eq_comm] using hend
  exact ⟨run_front h.behind hbehind, hread⟩

/-- The lines of tables add the tables, one after the other. -/
theorem run_blocks (h : ∀ b ∈ blocks, b.IsLaidOut)
    (hrun : Scan.run ⟨tables, none⟩ number (blocks.flatMap (·.lines)) = .ok s') :
    s' = ⟨tables ++ blocks.map (·.told), none⟩ ∧ ∀ b ∈ blocks, b.IsRead := by
  induction blocks generalizing tables number with
  | nil => exact ⟨by simpa [Scan.run, eq_comm] using hrun, nofun⟩
  | cons b blocks ih =>
    rw [List.flatMap_cons] at hrun
    obtain ⟨s₁, _, hfirst, hrun⟩ := exists_of_run_append hrun
    obtain ⟨rfl, hread⟩ := run_block (h b List.mem_cons_self) hfirst
    obtain ⟨rfl, hothers⟩ := ih (fun c hc => h c (List.mem_cons_of_mem b hc)) hrun
    exact ⟨by simp, List.forall_mem_cons.2 ⟨hread, hothers⟩⟩

/-- **A scan finds the tables that the lines tell of.** -/
theorem eq_tables_of_scan (h : IsLayout script front blocks) (hscan : scan script = .ok tables) :
    tables = blocks.map (·.told) ∧ ∀ b ∈ blocks, b.IsRead := by
  rw [scan, h.lines] at hscan
  obtain ⟨s, hrun, hfinish⟩ := exists_of_bind_eq_ok hscan
  obtain ⟨s₁, _, hfront, hblocks⟩ := exists_of_run_append hrun
  obtain rfl := run_front h.front hfront
  obtain ⟨rfl, hread⟩ := run_blocks h.blocks hblocks
  cases hfinish
  exact ⟨by simp [Scan.finish], hread⟩

/-- The name in a header has no parenthesis. -/
theorem not_mem_of_header {line name : String} (h : Line.classify line = .header name) :
    '(' ∉ name.toList := by
  have hname : headerName? (Text.dropBlank line.toList) = some name := by
    rw [Line.classify] at h
    split at h
    · cases h
      assumption
    · split_ifs at h
      split at h <;> cases h
  rw [headerName?] at hname
  simp only [Option.bind_eq_bind, Option.bind_eq_some_iff] at hname
  obtain ⟨rest, -, rest', -, hname⟩ := hname
  split at hname
  · split at hname
    · cases hname
    · cases hname
      rw [String.toList_ofList]
      intro hmem
      exact absurd (List.mem_takeWhile_imp hmem) (by decide)
  · cases hname

/-- Every item of a list has an image exactly if those that it has are as many. -/
theorem forall₂_filterMap_iff {α β : Type} {f : α → Option β} {l : List α} :
    List.Forall₂ (fun a b => f a = some b) l (l.filterMap f) ↔ ∀ a ∈ l, (f a).isSome = true := by
  induction l with
  | nil => simp
  | cons a l ih =>
    rw [List.forall_mem_cons]
    cases ha : f a with
    | none =>
      rw [List.filterMap_cons_none ha]
      refine iff_of_false (fun h => ?_) (fun h => by cases h.1)
      have := h.length_eq
      have := List.length_filterMap_le f l
      simp at *
      omega
    | some b => simp [List.filterMap_cons_some ha, ha, ih]

end Layouts

end Tablewright.Outline
