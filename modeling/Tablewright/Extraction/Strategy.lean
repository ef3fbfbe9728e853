import Tablewright.Extraction.Catalog
import Tablewright.Outline.Scan

/-!
# Extraction

The tables of a script are found in one of two ways: by running the script and reading the
catalog, or by scanning its lines.
-/

namespace Tablewright

/-- How the tables of a script are found. -/
inductive Strategy
  /-- Run the script and read the catalog. -/
  | live
  /-- Scan the lines of the script. -/
  | pattern
  deriving DecidableEq, Repr, Inhabited

namespace Strategy

/-- The word for a strategy. -/
def keyword : Strategy → String
  | live => "live"
  | pattern => "pattern"

/-- The strategy that a word names. -/
def ofKeyword? (s : String) : Option Strategy :=
  if s = live.keyword then some live
  else if s = pattern.keyword then some pattern
  else none

/-- The name of a strategy in events. -/
def label : Strategy → String
  | live => "Live"
  | pattern => "Pattern"

end Strategy

/-- Extract the tables of a script with a database engine. -/
def extractTablesBy (e : Engine) (script : String) : Strategy → Except ExtractionError (List Table)
  | .live => Catalog.extract e script
  | .pattern => Outline.extract script

/-- Extract the tables of a script. -/
def extractTables (script : String) : Strategy → Except ExtractionError (List Table) :=
  extractTablesBy .builtIn script

/-- The event of a line that is passed over. -/
def skippedEvent (line : Nat) : Event where
  level := .debug
  message := "skipping non-table statement"
  fields := [("line", toString line)]

/-- The event of an extraction that succeeded. -/
def extractedEvent (strategy : Strategy) (tables : List Table) : Event where
  level := .info
  message := "extracted schema"
  fields := [("strategy", strategy.label), ("tables", toString tables.length)]

/-- The events of an extraction. -/
def extractionEvents (e : Engine) (script : String) (strategy : Strategy) : List Event :=
  let onTheWay :=
    match strategy with
    | .live => Catalog.events e script
    | .pattern => (Outline.skippedLines script).map skippedEvent
  match extractTablesBy e script strategy with
  | .ok tables => onTheWay ++ [extractedEvent strategy tables]
  | .error _ => onTheWay

end Tablewright
