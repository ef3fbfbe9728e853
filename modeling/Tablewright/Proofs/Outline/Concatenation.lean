import Tablewright.Proofs.Outline.Runs
import Tablewright.Proofs.Text.Lines

/-!
# Scripts one after the other

A scan carries its tables along without looking at them, and tells of a line's number only in its
errors. So a scan that begins with more tables, at a line of a greater number, goes the same way with
these tables in front and with errors that tell of the greater number (`Scan.run_behind`), and a script
behind one that ends outside of all tables is scanned as it is by itself (`scan_append`).
-/

namespace Tablewright

/-- The error of a script that stands behind a number of lines: where it tells of a line, it tells of
the one so many lines below. -/
def ExtractionError.behind (count : Nat) : ExtractionError → ExtractionError
  | .script (.unsupportedTable line text) => .script (.unsupportedTable (line + count) text)
  | e => e

namespace Outline

/-- The same error in a script that stands behind a number of lines. -/
def ScanError.behind (count : Nat) (e : ScanError) : ScanError :=
  ⟨e.line + count, e.error.behind count⟩

namespace Scan

/-- A scan that has read other tables first. -/
def behind (front : List Table) (s : Scan) : Scan :=
  ⟨front ++ s.tables, s.current⟩

theorem finish_behind (front : List Table) (s : Scan) :
    (s.behind front).finish = front ++ s.finish := by
  simp [finish, behind]

/-- What becomes of a scan behind other tables and their lines. -/
def outcomeBehind (front : List Table) (count : Nat) : Except ScanError Scan → Except ScanError Scan
  | .ok s => .ok (s.behind front)
  | .error e => .error (e.behind count)

section Behind

variable {front : List Table} {count : Nat}

theorem readColumn_error_behind {table : String} {parts : ColumnLine} {e : ExtractionError}
    (h : readColumn table parts = .error e) : e.behind count = e := by
  obtain ⟨-, rfl⟩ := readColumn_eq_error_iff.1 h
  rfl

/-- A line is read the same way behind other tables. -/
theorem step_behind (s : Scan) (number : Nat) (line : String) :
    (s.behind front).step (number + count) line =
      outcomeBehind front count (s.step number line) := by
  obtain ⟨tables, current⟩ := s
  rw [step, step]
  cases Line.classify line with
  | header table => simp [outcomeBehind, finish, behind]
  | unsupportedTable => rfl
  | tableEnd => cases current <;> simp [outcomeBehind, finish, behind]
  | column parts =>
    cases current with
    | none => rfl
    | some t =>
      simp only [behind]
      cases hread : readColumn t.name parts with
      | error e => simp [outcomeBehind, ScanError.behind, readColumn_error_behind hread]
      | ok column => rfl
  | skippedStatement | tableConstraint | other => rfl

/-- **A scan goes the same way behind other tables.** -/
theorem run_behind (s : Scan) (number : Nat) (lines : List String) :
    (s.behind front).run (number + count) lines =
      outcomeBehind front count (s.run number lines) := by
  induction lines generalizing s number with
  | nil => rfl
  | cons line rest ih =>
    rw [run, run, step_behind]
    cases s.step number line with
    | error e => rfl
    | ok s₁ => rw [ok_bind, outcomeBehind, ok_bind, Nat.add_right_comm, ih]

end Behind

end Scan

/-- **A script behind another is scanned as it is by itself**, if the first one consists of whole lines
and its scan ends outside of all tables: the tables of the first come in front, and errors tell of a
line behind those of the first. -/
theorem scan_append {a : String} {tables : List Table}
    (hwhole : a = "" ∨ a.toList.getLast? = some '\n')
    (hrun : Scan.start.run 1 (Text.lines a) = .ok ⟨tables, none⟩) :
    scan a = .ok tables ∧
      ∀ b, scan (a ++ b) =
        match scan b with
        | .ok found => .ok (tables ++ found)
        | .error e => .error (e.behind (Text.lines a).length) := by
  constructor
  · rw [scan, hrun, ok_bind]
    simp [Scan.finish, pure, Except.pure]
  · intro b
    have hbehind : (⟨tables, none⟩ : Scan) = Scan.start.behind tables := by
      simp [Scan.behind, Scan.start]
    rw [scan, scan, Text.lines_append hwhole, run_append, hrun, ok_bind, hbehind, Scan.run_behind]
    cases Scan.start.run 1 (Text.lines b) with
    | error e => rfl
    | ok s => simp [Scan.outcomeBehind, ok_bind, Scan.finish_behind, pure, Except.pure]

/-- A script with one table, in lines that end in a carriage return and a line feed. -/
def closedScript : String :=
  "CREATE TABLE IF NOT EXISTS t (\r\n  a TEXT NOT NULL\r\n);\r\n"

theorem scan_append_of_closedScript :
    Scan.start.run 1 (Text.lines closedScript) =
        .ok ⟨[⟨"t", [⟨"a", .text, false, false, false⟩]⟩], none⟩ ∧
      scan (closedScript ++ closedScript) =
        .ok [⟨"t", [⟨"a", .text, false, false, false⟩]⟩, ⟨"t", [⟨"a", .text, false, false, false⟩]⟩] ∧
      scan (closedScript ++ "\nCREATE TABLE u (\n") =
        .error ⟨5, .script (.unsupportedTable 5 "CREATE TABLE u (")⟩ := by
  have hrun : Scan.start.run 1 (Text.lines closedScript) =
      .ok ⟨[⟨"t", [⟨"a", .text, false, false, false⟩]⟩], none⟩ := by decide +kernel
  obtain ⟨hscan, hbehind⟩ := scan_append (.inr (by decide +kernel)) hrun
  have herror : scan "\nCREATE TABLE u (\n" =
      .error ⟨2, .script (.unsupportedTable 2 "CREATE TABLE u (")⟩ := by decide +kernel
  have hlines : (Text.lines closedScript).length = 3 := by decide +kernel
  refine ⟨hrun, ?_, ?_⟩
  · rw [hbehind, hscan]
    rfl
  · rw [hbehind, herror, hlines]
    rfl

end Outline

end Tablewright
