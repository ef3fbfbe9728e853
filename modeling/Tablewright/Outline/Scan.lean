import Tablewright.Extraction.Error
import Tablewright.Outline.Line
import Tablewright.Text.Lines

/-!
# Scanning a script line by line

The scan of a script goes from line to line and is either outside of all tables or inside one
(`Scan`). A header opens a table and closes the one before it; inside a table a column line adds
a column and a closing line ends the table; every other line changes nothing, except that a
table definition in another layout stops the scan. The end of the script closes an open table.
-/

namespace Tablewright.Outline

/-- The tables read so far, and the open one. -/
structure Scan where
  tables : List Table
  current : Option Table
  deriving DecidableEq, Repr

/-- Where and why a scan stopped. -/
structure ScanError where
  /-- The number of the line, counted from one. -/
  line : Nat
  error : ExtractionError
  deriving DecidableEq, Repr

/-- The column that a column line of `table` defines. -/
def readColumn (table : String) (line : ColumnLine) : Except ExtractionError Column :=
  match Affinity.ofText line.declaredType with
  | .error _ => .error (.unknownType table line.name line.declaredType)
  | .ok affinity =>
    let constraints := line.constraints.toList
    .ok (.declare line.name affinity
      (contains ["not", "null"] none constraints)
      (contains ["primary", "key"] none constraints)
      (contains ["autoincrement"] none constraints))

namespace Scan

/-- Nothing read yet. -/
def start : Scan :=
  ⟨[], none⟩

/-- All tables, the open one included. -/
def finish (scan : Scan) : List Table :=
  scan.tables ++ scan.current.toList

/-- Read a line. -/
def step (scan : Scan) (number : Nat) (text : String) : Except ScanError Scan :=
  match Line.classify text, scan.current with
  | .header table, _ => .ok ⟨scan.finish, some ⟨table, []⟩⟩
  | .unsupportedTable, _ =>
    .error ⟨number, .script (.unsupportedTable number (Text.trimBlank text))⟩
  | .tableEnd, some _ => .ok ⟨scan.finish, none⟩
  | .column line, some table =>
    match readColumn table.name line with
    | .error e => .error ⟨number, e⟩
    | .ok column => .ok ⟨scan.tables, some ⟨table.name, table.columns ++ [column]⟩⟩
  | _, _ => .ok scan

/-- Read lines, the first of which has the given number. -/
def run (scan : Scan) (number : Nat) : List String → Except ScanError Scan
  | [] => .ok scan
  | line :: rest => do run (← scan.step number line) (number + 1) rest

end Scan

/-- The tables of a script, before they are validated. -/
def scan (script : String) : Except ScanError (List Table) := do
  return (← Scan.start.run 1 (Text.lines script)).finish

/-- Extract the tables of a script by its outline. -/
def extract (script : String) : Except ExtractionError (List Table) :=
  match scan script with
  | .error e => .error e.error
  | .ok tables => validated tables

/-- The numbers of the lines that were read and passed over as statements that define no
table. -/
def skippedLines (script : String) : List Nat :=
  let stop :=
    match scan script with
    | .error e => some e.line
    | .ok _ => none
  ((Text.lines script).mapIdx fun i line => (i + 1, line)).filterMap fun (number, line) =>
    if stop.all (number < ·) && Line.classify line = .skippedStatement then some number else none

end Tablewright.Outline
