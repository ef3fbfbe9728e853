import Tablewright.Statement.Fields

/-!
# Batched writes

One statement writes all rows of a batch. Row `i` binds its value for column `c` as the
parameter `i_c`, so no two rows share a parameter. The statement names its columns once, hence
all rows of a batch must supply the same ones (`uniformColumns`). Rows that supply no column are
written through their row id, so that every column takes its default (`Batch.statement`).
-/

namespace Tablewright

/-- What a batched write does with a row whose key is taken. -/
inductive WriteVerb
  | insert
  | replace
  deriving DecidableEq, Repr

/-- The SQL keyword of a verb. -/
def WriteVerb.keyword : WriteVerb → String
  | insert => "INSERT"
  | replace => "REPLACE"

/-- Why no statement was built for a batch. -/
inductive BatchError
  /-- The batch has no rows. -/
  | empty (table : String)
  /-- A row supplies other columns than row 0. -/
  | mismatched (table : String) (row : Nat) (expected found : List String)
  deriving DecidableEq, Repr

namespace Batch

/-- Names separated by commas. -/
def commaSeparated (names : List String) : String :=
  String.intercalate ", " names

end Batch

/-- The diagnostic for a batch without a statement. -/
def BatchError.message : BatchError → String
  | empty table => "empty batch for table " ++ table
  | mismatched table row expected found =>
    "row " ++ toString row ++ " of batch for table " ++ table ++ " binds columns [" ++
      Batch.commaSeparated found ++ "] but row 0 binds [" ++ Batch.commaSeparated expected ++ "]"

namespace Batch

/-- The parameter that a row binds for a column. -/
def parameterName (row : Nat) (column : String) : String :=
  toString row ++ "_" ++ column

/-- The columns that a row supplies, in the order of `columns`. -/
def supplied (columns : List String) (row : Fields) : List String :=
  columns.filter row.supplies

/-- The tuple of a row. -/
def tuple (columns : List String) (index : Nat) (row : Fields) : String :=
  "(" ++ commaSeparated ((supplied columns row).map fun c => ":" ++ parameterName index c) ++ ")"

/-- The parameters of a row. -/
def rowParameters (index : Nat) (row : Fields) : Parameters :=
  row.map fun field => (parameterName index field.1, field.2)

/-- The tuples of all rows. -/
def tuples (columns : List String) (rows : List Fields) : String :=
  commaSeparated (rows.mapIdx (tuple columns))

/-- The parameters of all rows. -/
def parameters (rows : List Fields) : Parameters :=
  (rows.mapIdx rowParameters).flatten

/-- Compare the rows from number `index` on with the columns of row 0. -/
def checkRows (table : String) (columns expected : List String) (index : Nat) :
    List Fields → Except BatchError Unit
  | [] => .ok ()
  | row :: rest =>
    if supplied columns row = expected then checkRows table columns expected (index + 1) rest
    else .error (.mismatched table index expected (supplied columns row))

/-- The columns that every row supplies, in the order of `columns`. -/
def uniformColumns (table : String) (columns : List String) :
    List Fields → Except BatchError (List String)
  | [] => .ok []
  | first :: rest => do
    let expected := supplied columns first
    checkRows table columns expected 1 rest
    return expected

/-- The beginning of a write: verb, table and column list. -/
def writeHead (verb : WriteVerb) (table columns : String) : String :=
  verb.keyword ++ " INTO " ++ table ++ " (" ++ columns ++ ") VALUES "

/-- The statement that writes all rows of a batch, and its parameters. -/
def statement (verb : WriteVerb) (table : String) (columns : List String) (rows : List Fields) :
    Except BatchError (String × Parameters) := do
  if rows.isEmpty then throw (.empty table)
  let shared ← uniformColumns table columns rows
  if shared.isEmpty then
    return (writeHead verb table "rowid" ++ commaSeparated (rows.map fun _ => "(NULL)"), [])
  return (writeHead verb table (commaSeparated shared) ++ tuples columns rows, parameters rows)

end Batch

end Tablewright
