import Tablewright.Event
import Tablewright.Extraction.Engine
import Tablewright.Extraction.Error
import Tablewright.Outline.Phrase

/-!
# Tables from a catalog

A script is run against a new database, and the tables are read off its catalog in the order of their
creation; the engine's own tables are passed over. The catalog does not tell which columns are
autoincremented; the text of the table's definition does, if the keyword follows the name of the
column before the next comma (`declaresAutoIncrement`).
-/

namespace Tablewright.Catalog

open Sql

/-! ## Autoincrement in the text of a definition -/

/-- What follows the first opening parenthesis of a text, the text itself if there is none. -/
def afterParenthesis (cs : List Char) : List Char :=
  match cs.dropWhile (· != '(') with
  | [] => cs
  | _ :: rest => rest

/-- The columns in the text of a table's definition. -/
def definitionBody (definition : Option String) : List Char :=
  afterParenthesis (definition.getD "").toList

/-- Take off a name in any case. -/
def takeName? : List Char → List Char → Option (List Char)
  | [], rest => some rest
  | n :: ns, c :: rest => if Text.foldCase c == Text.foldCase n then takeName? ns rest else none
  | _ :: _, [] => none

/-- What follows the quote at the beginning of a text, the text itself if there is none. -/
def dropQuote (cs : List Char) : List Char :=
  match cs with
  | c :: rest => if c == '"' || c == '`' || c == ']' then rest else cs
  | [] => []

/-- Whether a text begins with a blank and has the keyword before its first comma. -/
def incrementFollows : List Char → Bool
  | [] => false
  | c :: rest =>
    Text.isBlank c && Outline.contains ["autoincrement"] (some c) (rest.takeWhile (· != ','))

/-- Whether a text begins with a column that is declared to be autoincremented. -/
def beginsIncremented (name cs : List Char) : Bool :=
  match takeName? name cs with
  | none => false
  | some rest => incrementFollows (dropQuote rest) || incrementFollows rest

/-- Whether a text declares a column to be autoincremented; `atBoundary` says that no character
of a name stands in front of the text. -/
def declaresIncrement (name : List Char) (atBoundary : Bool) : List Char → Bool
  | [] => false
  | c :: rest =>
    (atBoundary && beginsIncremented name (c :: rest)) ||
      declaresIncrement name (!Outline.isNameChar c) rest

/-- Whether the columns in a definition declare one of them to be autoincremented. -/
def declaresAutoIncrement (body : List Char) (column : String) : Bool :=
  declaresIncrement column.toList true body

/-! ## Tables -/

/-- A column of a table, given what its definition says of columns. -/
def readColumn (table : String) (body : List Char) (c : CatalogColumn) :
    Except ExtractionError Column :=
  match Affinity.ofText c.declaredType with
  | .error _ => .error (.unknownType table c.name c.declaredType)
  | .ok affinity =>
    .ok (.declare c.name affinity c.isNotNull c.isPrimaryKey
      (c.isPrimaryKey && affinity = .integer && declaresAutoIncrement body c.name))

/-- A table that the catalog lists, with its columns. -/
def readTable (entry : CatalogEntry) (columns : List CatalogColumn) :
    Except ExtractionError Table := do
  return ⟨entry.name, ← columns.mapM (readColumn entry.name (definitionBody entry.definition))⟩

/-- Whether a name is that of one of the engine's own tables. -/
def isInternalName (name : String) : Bool :=
  "sqlite_".toList.isPrefixOf name.toList

section Engine

variable (e : Engine) (store : e.Store)

/-- The table of an entry. -/
def fetchTable (entry : CatalogEntry) : Except ExtractionError Table := do
  readTable entry (← (e.columns store entry.name).mapError .database)

/-- The tables among entries. -/
def readTables : List CatalogEntry → Except ExtractionError (List Table)
  | [] => .ok []
  | entry :: rest => do
    if isInternalName entry.name then readTables rest
    else return (← fetchTable e store entry) :: (← readTables rest)

/-- The entries of the catalog. -/
def listedEntries : Except ExtractionError (List CatalogEntry) :=
  (e.entries store).mapError .database

/-- The tables of the catalog. -/
def catalogTables : Except ExtractionError (List Table) := do
  readTables e store (← listedEntries e store)

/-- The database that a script makes. -/
def ofScript (script : String) : Except ExtractionError e.Store := do
  let fresh ← e.fresh.mapError .database
  (e.execute fresh script).mapError fun _ => .script .rejected

/-- Extract the tables of a script by running it. -/
def extract (script : String) : Except ExtractionError (List Table) := do
  validated (← catalogTables e (← ofScript e script))

/-! ## Events -/

/-- The event of a table that was read. -/
def tableEvent (t : Table) : Event where
  level := .debug
  message := "introspected table"
  fields := [("table", t.name), ("columns", toString t.columns.length)]

/-- The event of a table that was passed over. -/
def internalEvent (name : String) : Event where
  level := .debug
  message := "skipping internal table"
  fields := [("table", name)]

/-- The events of reading entries, up to the first table that cannot be read. -/
def readingEvents : List CatalogEntry → List Event
  | [] => []
  | entry :: rest =>
    if isInternalName entry.name then internalEvent entry.name :: readingEvents rest
    else
      match fetchTable e store entry with
      | .ok table => tableEvent table :: readingEvents rest
      | .error _ => []

/-- The events of an extraction. -/
def events (script : String) : List Event :=
  match ofScript e script with
  | .error _ => []
  | .ok store =>
    match listedEntries e store with
    | .ok entries => readingEvents e store entries
    | .error _ => []

end Engine

end Tablewright.Catalog
