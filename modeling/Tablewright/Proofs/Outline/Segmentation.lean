import Tablewright.Proofs.Outline.Runs
import Mathlib.Data.List.Forall2
import Mathlib.Data.List.Induction

/-!
# Scripts in segments

Which tables a script has can be read off its lines without a scan. A line is inside a table if the
table's header is the last header before it and no closing line stands between (`IsInside`); a column
line inside a table is one of its columns, and every header begins a segment of the script
(`segments`). The scan stops at the first line with a fault (`run_eq_error_iff`), and otherwise reads
every segment as a table (`comesTo_of_run`), so that an extraction yields the tables of the segments
(`scan_segments`).
-/

namespace Tablewright.Outline

/-! ## The table that a line stands in -/

/-- A line behind others is inside a table: its header is among them, and no other header and no
closing line follows. -/
def IsInside (before : List String) (table : String) : Prop :=
  ∃ front header between, before = front ++ header :: between ∧
    Line.classify header = .header table ∧ ∀ line ∈ between, isBoundary line = false

/-- A line has a fault where it stands. -/
def IsFault (lines : List String) (e : ScanError) : Prop :=
  ∃ before line after, lines = before ++ line :: after ∧
    Fault (IsInside before) (before.length + 1) line e

/-- A line has a fault, and no line in front of it has one. -/
def IsFirstFault (lines : List String) (e : ScanError) : Prop :=
  IsFault lines e ∧ ∀ e', IsFault lines e' → e.line ≤ e'.line

section Lines

variable {before : List String} {line table : String} {e : ScanError}

/-- A line of some lines is the last one, or one of those in front of it. -/
theorem concat_eq_append_cons_iff {α : Type} {before front after : List α} {a b : α} :
    before ++ [a] = front ++ b :: after ↔
      (before = front ∧ a = b ∧ after = []) ∨
        ∃ rest, after = rest ++ [a] ∧ before = front ++ b :: rest := by
  obtain rfl | ⟨rest, last, rfl⟩ := List.eq_nil_or_concat' after
  · simp [List.append_singleton_inj]
  · rw [← List.cons_append, ← List.append_assoc, List.append_singleton_inj]
    constructor
    · rintro ⟨rfl, rfl⟩
      exact .inr ⟨rest, rfl, rfl⟩
    · rintro (⟨-, -, h⟩ | ⟨rest', h, rfl⟩)
      · simp at h
      · obtain ⟨rfl, rfl⟩ := List.append_singleton_inj.1 h
        exact ⟨rfl, rfl⟩

theorem not_isInside_nil : ¬IsInside [] table := by
  rintro ⟨front, header, between, hbefore, -⟩
  simp at hbefore

theorem isInside_concat :
    IsInside (before ++ [line]) table ↔
      Line.classify line = .header table ∨ (isBoundary line = false ∧ IsInside before table) := by
  constructor
  · rintro ⟨front, header, between, hbefore, hheader, hbetween⟩
    obtain ⟨-, rfl, -⟩ | ⟨between, rfl, rfl⟩ := concat_eq_append_cons_iff.1 hbefore
    · exact .inl hheader
    · rw [List.forall_mem_append, List.forall_mem_singleton] at hbetween
      exact .inr ⟨hbetween.2, front, header, between, rfl, hheader, hbetween.1⟩
  · rintro (hheader | ⟨hline, front, header, between, rfl, hheader, hbetween⟩)
    · exact ⟨before, line, [], rfl, hheader, nofun⟩
    · exact ⟨front, header, between ++ [line], by simp, hheader,
        List.forall_mem_append.2 ⟨hbetween, List.forall_mem_singleton.2 hline⟩⟩

theorem not_isFault_nil : ¬IsFault [] e := by
  rintro ⟨before, line, after, hlines, -⟩
  simp at hlines

theorem isFault_concat :
    IsFault (before ++ [line]) e ↔
      IsFault before e ∨ Fault (IsInside before) (before.length + 1) line e := by
  constructor
  · rintro ⟨front, faulty, after, hlines, hfault⟩
    obtain ⟨rfl, rfl, -⟩ | ⟨rest, -, hbefore⟩ := concat_eq_append_cons_iff.1 hlines
    · exact .inr hfault
    · exact .inl ⟨front, faulty, rest, hbefore, hfault⟩
  · rintro (⟨front, faulty, after, rfl, hfault⟩ | hfault)
    · exact ⟨front, faulty, after ++ [line], by simp, hfault⟩
    · exact ⟨before, line, [], rfl, hfault⟩

theorem IsFault.line_le (h : IsFault before e) : e.line ≤ before.length := by
  obtain ⟨front, faulty, after, rfl, hfault⟩ := h
  rw [hfault.line_eq, List.length_append, List.length_cons]
  omega

end Lines

/-! ## Where a scan stops -/

section Stops

variable {s s' : Scan} {before lines : List String} {line table : String} {e : ScanError}

/-- A line leaves a scan inside the table that it opens, or inside the one that it does not close. -/
theorem Scan.Advances.isIn_iff (h : s.Advances line s') :
    s'.IsIn table ↔ Line.classify line = .header table ∨ (isBoundary line = false ∧ s.IsIn table) := by
  cases h with
  | opens hclass => simp [IsIn, isBoundary, hclass]
  | closes hclass => simp [IsIn, isBoundary, hclass]
  | adds hopen hclass => simp [IsIn, isBoundary, hclass, hopen]
  | passes hboundary =>
    have hheader : Line.classify line ≠ .header table := by
      intro hclass
      simp [isBoundary, hclass] at hboundary
    simp [hboundary, hheader]

/-- **A scan is inside the table that the lines read so far leave open.** -/
theorem isIn_of_run (h : Scan.start.run 1 before = .ok s) : s.IsIn table ↔ IsInside before table := by
  induction before using List.reverseRecOn generalizing s with
  | nil =>
    cases h
    simp [not_isInside_nil, Scan.IsIn, Scan.start]
  | append_singleton before line ih =>
    rw [run_concat] at h
    obtain ⟨middle, hbefore, hstep⟩ := exists_of_bind_eq_ok h
    rw [(Scan.advances_of_step hstep).isIn_iff, ih hbefore, isInside_concat]

theorem step_eq_error_iff_of_run (h : Scan.start.run 1 before = .ok s) :
    s.step (1 + before.length) line = .error e ↔
      Fault (IsInside before) (before.length + 1) line e := by
  have hin : s.IsIn = IsInside before := funext fun table => propext (isIn_of_run h)
  rw [Scan.step_eq_error_iff, hin, Nat.add_comm]

/-- Lines without a fault are all read. -/
theorem exists_run_iff : (∃ s, Scan.start.run 1 lines = .ok s) ↔ ∀ e, ¬IsFault lines e := by
  induction lines using List.reverseRecOn with
  | nil => exact ⟨fun _ e => not_isFault_nil, fun _ => ⟨_, rfl⟩⟩
  | append_singleton before line ih =>
    simp only [isFault_concat, not_or, forall_and]
    rw [run_concat, ← ih]
    constructor
    · rintro ⟨s, h⟩
      obtain ⟨middle, hbefore, hstep⟩ := exists_of_bind_eq_ok h
      refine ⟨⟨middle, hbefore⟩, fun e hfault => ?_⟩
      simp [(step_eq_error_iff_of_run hbefore).2 hfault] at hstep
    · rintro ⟨⟨middle, hbefore⟩, hline⟩
      rw [hbefore, ok_bind]
      cases hstep : middle.step (1 + before.length) line with
      | ok s => exact ⟨s, rfl⟩
      | error e => exact absurd ((step_eq_error_iff_of_run hbefore).1 hstep) (hline e)

/-- **A scan stops at the first line with a fault.** -/
theorem run_eq_error_iff : Scan.start.run 1 lines = .error e ↔ IsFirstFault lines e := by
  induction lines using List.reverseRecOn with
  | nil => simp [Scan.run, IsFirstFault, not_isFault_nil]
  | append_singleton before line ih =>
    rw [run_concat, bind_eq_error_iff, ih]
    simp only [IsFirstFault, isFault_concat]
    constructor
    · rintro (⟨hfault, hfirst⟩ | ⟨s, hbefore, hstep⟩)
      · refine ⟨.inl hfault, fun e' he' => he'.elim (hfirst e') fun hline => ?_⟩
        have := hfault.line_le
        have := hline.line_eq
        omega
      · have hline := (step_eq_error_iff_of_run hbefore).1 hstep
        refine ⟨.inr hline, fun e' he' => ?_⟩
        have hline' := he'.resolve_left (exists_run_iff.1 ⟨s, hbefore⟩ e')
        exact Nat.le_of_eq (hline.line_eq.trans hline'.line_eq.symm)
    · rintro ⟨hfault | hline, hfirst⟩
      · exact .inl ⟨hfault, fun e' he' => hfirst e' (.inl he')⟩
      · have hnone : ∀ e', ¬IsFault before e' := by
          intro e' he'
          have := hfirst e' (.inl he')
          have := he'.line_le
          have := hline.line_eq
          omega
        obtain ⟨s, hbefore⟩ := exists_run_iff.2 hnone
        exact .inr ⟨s, hbefore, (step_eq_error_iff_of_run hbefore).2 hline⟩

end Stops

/-! ## Segments -/

/-- A table as it stands in a script: its name, and its column lines. -/
structure Segment where
  table : String
  columns : List ColumnLine
  deriving DecidableEq, Repr

/-- The parts of a column line. -/
def columnParts? (line : String) : Option ColumnLine :=
  match Line.classify line with
  | .column parts => some parts
  | _ => none

/-- The column lines up to the next header or closing line, or to the end. -/
def leadingColumns (lines : List String) : List ColumnLine :=
  (lines.takeWhile fun line => !isBoundary line).filterMap columnParts?

/-- The tables that stand in a script, one for each header. -/
def segments : List String → List Segment
  | [] => []
  | line :: rest =>
    match Line.classify line with
    | .header table => ⟨table, leadingColumns rest⟩ :: segments rest
    | _ => segments rest

/-- Column lines of a table are read as columns, one by one. -/
def AreReadAs (table : String) (lines : List ColumnLine) (columns : List Column) : Prop :=
  List.Forall₂ (fun line column => readColumn table line = .ok column) lines columns

/-- A segment is read as a table. -/
def Segment.IsReadAs (segment : Segment) (t : Table) : Prop :=
  t.name = segment.table ∧ AreReadAs segment.table segment.columns t.columns

/-- A table that is open in front of some lines gets the columns that they begin with. -/
def IsCompletedTo (lines : List String) (t t' : Table) : Prop :=
  ∃ columns, AreReadAs t.name (leadingColumns lines) columns ∧ t' = ⟨t.name, t.columns ++ columns⟩

/-- All tables that a scan comes to with the lines ahead: those that it has read, the one that is
open, and those of the segments ahead. -/
def Scan.ComesTo (s : Scan) (lines : List String) (found : List Table) : Prop :=
  ∃ (completed : Option Table) (tables : List Table),
    found = s.tables ++ completed.toList ++ tables ∧
      Option.Rel (IsCompletedTo lines) s.current completed ∧
      List.Forall₂ Segment.IsReadAs (segments lines) tables

section Segments

variable {s s' : Scan} {lines rest : List String} {line : String} {number : Nat}
  {found : List Table}

theorem leadingColumns_cons_of_boundary (h : isBoundary line = true) :
    leadingColumns (line :: rest) = [] := by
  simp [leadingColumns, h]

theorem leadingColumns_cons (h : isBoundary line = false) :
    leadingColumns (line :: rest) = (columnParts? line).toList ++ leadingColumns rest := by
  simp only [leadingColumns, List.takeWhile_cons, h, Bool.not_false, if_true, List.filterMap_cons]
  cases columnParts? line <;> rfl

theorem segments_cons_of_ne_header (h : ∀ table, Line.classify line ≠ .header table) :
    segments (line :: rest) = segments rest := by
  rw [segments]
  split
  · rename_i table hclass
    exact absurd hclass (h table)
  · rfl

/-- A line that is passed over inside a table has no column. -/
theorem columnParts?_eq_none (h : ∀ parts, Line.classify line ≠ .column parts) :
    columnParts? line = none := by
  rw [columnParts?]
  split
  · rename_i parts hclass
    exact absurd hclass (h parts)
  · rfl

/-- A table stays as it is in front of a header, a closing line and the end. -/
theorem isCompletedTo_self (h : leadingColumns lines = []) (t : Option Table) :
    Option.Rel (IsCompletedTo lines) t t := by
  cases t with
  | none => exact .none
  | some t => exact .some ⟨[], by rw [h]; exact .nil, by simp⟩

/-- **What a scan comes to does not change with a line.** -/
theorem Scan.ComesTo.of_advances (hline : s.Advances line s') (h : s'.ComesTo rest found) :
    s.ComesTo (line :: rest) found := by
  obtain ⟨completed, tables, rfl, hcompleted, htables⟩ := h
  cases hline with
  | @opens table hclass =>
    have hboundary : isBoundary line = true := by simp [isBoundary, hclass]
    obtain ⟨columns, hcolumns, rfl⟩ : ∃ columns, AreReadAs table (leadingColumns rest) columns ∧
        completed = some ⟨table, columns⟩ := by
      cases hcompleted with
      | some hread =>
        obtain ⟨columns, hcolumns, rfl⟩ := hread
        exact ⟨columns, hcolumns, rfl⟩
    refine ⟨s.current, ⟨table, columns⟩ :: tables, by simp [finish],
      isCompletedTo_self (leadingColumns_cons_of_boundary hboundary) _, ?_⟩
    simp only [segments, hclass]
    exact .cons ⟨rfl, hcolumns⟩ htables
  | closes hclass =>
    have hboundary : isBoundary line = true := by simp [isBoundary, hclass]
    cases hcompleted
    refine ⟨s.current, tables, by simp [finish],
      isCompletedTo_self (leadingColumns_cons_of_boundary hboundary) _, ?_⟩
    rwa [segments_cons_of_ne_header (by simp [hclass])]
  | @adds t parts column hopen hclass hread =>
    have hleading : leadingColumns (line :: rest) = parts :: leadingColumns rest := by
      rw [leadingColumns_cons (isBoundary_column hclass), columnParts?, hclass]
      rfl
    cases hcompleted with
    | some hrest =>
      obtain ⟨columns, hcolumns, rfl⟩ := hrest
      refine ⟨some ⟨t.name, t.columns ++ column :: columns⟩, tables, by simp, ?_, ?_⟩
      · rw [hopen]
        exact .some ⟨column :: columns, hleading ▸ .cons hread hcolumns, rfl⟩
      · rwa [segments_cons_of_ne_header (by simp [hclass])]
  | passes hboundary _ hcolumn =>
    have hsegments : segments (line :: rest) = segments rest :=
      segments_cons_of_ne_header fun table hclass => by simp [isBoundary, hclass] at hboundary
    refine ⟨completed, tables, rfl, ?_, hsegments ▸ htables⟩
    cases hopen : s.current with
    | none =>
      rw [hopen] at hcompleted
      cases hcompleted
      exact .none
    | some t =>
      have hother : ∀ parts, Line.classify line ≠ .column parts := fun parts hclass => by
        simp [hcolumn parts hclass] at hopen
      have hleading : leadingColumns (line :: rest) = leadingColumns rest := by
        rw [leadingColumns_cons hboundary, columnParts?_eq_none hother]
        rfl
      rw [hopen] at hcompleted
      cases hcompleted with
      | some hread => exact .some (by rwa [IsCompletedTo, hleading])

/-- **A scan that does not stop comes to every segment.** -/
theorem comesTo_of_run (h : s.run number lines = .ok s') : s.ComesTo lines s'.finish := by
  induction lines generalizing s number with
  | nil =>
    cases h
    exact ⟨s'.current, [], by simp [Scan.finish], isCompletedTo_self rfl _, .nil⟩
  | cons line rest ih =>
    rw [Scan.run] at h
    obtain ⟨s₁, hstep, h⟩ := exists_of_bind_eq_ok h
    exact (ih h).of_advances (Scan.advances_of_step hstep)

end Segments

/-! ## Scripts -/

/-- **A script is scanned segment by segment.** The scan fails exactly if a line has a fault, and then
with the fault of the first such line; otherwise it yields the tables of the segments, which are what
is extracted unless they make no sound schema. -/
theorem scan_segments (script : String) :
    (∀ e, scan script = .error e ↔ IsFirstFault (Text.lines script) e) ∧
      ((∃ e, scan script = .error e) ↔ ∃ e, IsFault (Text.lines script) e) ∧
      (∀ e, scan script = .error e → extract script = .error e.error) ∧
      ((∀ e, ¬IsFault (Text.lines script) e) →
        ∃ tables, List.Forall₂ Segment.IsReadAs (segments (Text.lines script)) tables ∧
          scan script = .ok tables ∧
          extract script =
            match firstProblem? tables with
            | none => .ok tables
            | some problem => .error (.invalid problem)) := by
  have herror : ∀ e, scan script = .error e ↔ Scan.start.run 1 (Text.lines script) = .error e := by
    intro e
    rw [scan, bind_eq_error_iff]
    simp [pure, Except.pure]
  refine ⟨fun e => (herror e).trans run_eq_error_iff, ?_, ?_, ?_⟩
  · simp only [herror]
    constructor
    · rintro ⟨e, he⟩
      exact ⟨e, (run_eq_error_iff.1 he).1⟩
    · rintro ⟨e, hfault⟩
      cases hrun : Scan.start.run 1 (Text.lines script) with
      | error e' => exact ⟨e', rfl⟩
      | ok s => exact absurd hfault (exists_run_iff.1 ⟨s, hrun⟩ e)
  · intro e he
    rw [extract, he]
  · intro hfault
    obtain ⟨s, hrun⟩ := exists_run_iff.2 hfault
    obtain ⟨completed, tables, hfinish, hcompleted, htables⟩ := comesTo_of_run hrun
    have hscan : scan script = .ok tables := by
      cases hcompleted
      rw [scan, hrun, ok_bind, hfinish]
      rfl
    refine ⟨tables, htables, hscan, ?_⟩
    rw [extract, hscan]
    simp only [validated]
    cases firstProblem? tables <;> rfl

/-- A table ends at the next header too, and columns outside of tables belong to none. -/
example :
    segments ["  a TEXT", "CREATE TABLE IF NOT EXISTS t (", "  b TEXT,", "CREATE TABLE IF NOT EXISTS u (",
      "  c REAL NOT NULL", ");", ");", "  d TEXT"] =
      [⟨"t", [⟨"b", "TEXT", ","⟩]⟩, ⟨"u", [⟨"c", "REAL", " NOT NULL"⟩]⟩] := by
  decide +kernel

end Tablewright.Outline
