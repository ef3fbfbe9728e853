import Tablewright.Database.Basic
import Tablewright.Sql.Failure

/-!
# Foreign keys

A row refers through a foreign key to the row of the parent table that has the same key, unless
one of its own values is NULL (`isOrphan` says that there is no such row). When rows of a parent
are gone, `settle` does with the orphans they leave what the foreign keys ask for: deletes them, or
puts NULL or the default value into them, and goes on until nothing changes. Rows that were orphans
before stay; orphans that are left then make the statement fail.
-/

namespace Tablewright

open Sql

namespace Database

/-! ## Parents -/

/-- Whether two lists of positions hold the same columns. -/
def sameColumns (a b : List Nat) : Bool :=
  a.length == b.length && a.all b.contains

/-- Whether some columns of a table are its row id or a unique key. -/
def isParentKey (s : Schema) (t : StoredTable) (columns : List Nat) : Bool :=
  columns = t.rowidColumn.toList && !columns.isEmpty ||
    (s.uniqueKeys t).any fun k => sameColumns k.columns columns

/-- The parent of a foreign key, and the positions in it that the key refers to. -/
def parentKey? (s : Schema) (fk : ForeignKey) : Option (StoredTable × List Nat) := do
  let parent ← s.table? fk.target.table
  let columns ←
    if fk.target.columns.isEmpty then some parent.primaryKey
    else fk.target.columns.mapM parent.position?
  if columns.length = fk.columns.length && isParentKey s parent columns then
    return (parent, columns)
  none

/-- Whether a key refers to a row of its parent. -/
def refersTo (parent : StoredTable) (columns : List Nat) (key : List Value) (row : Row) : Bool :=
  (columns.zip key).all fun (i, v) =>
    match parent.columns[i]? with
    | some c => (c.affinity.convert v).sameKey (row.values.getD i .null)
    | none => false

/-- Whether a row refers to a row that is not there. -/
def isOrphan (s : Schema) (fk : ForeignKey) (row : Row) : Bool :=
  match parentKey? s fk with
  | none => false
  | some (parent, columns) =>
    let key := StoredTable.valuesAt row fk.columns
    !(key.any Value.isNull) && !(parent.rows.any (refersTo parent columns key))

/-- Whether a row of a table is an orphan. -/
def isOrphanOf (s : Schema) (t : StoredTable) (row : Row) : Bool :=
  t.foreignKeys.any fun fk => isOrphan s fk row

/-- Whether any row is an orphan. -/
def hasOrphans (s : Schema) : Bool :=
  s.tables.any fun t => t.rows.any (isOrphanOf s t)

/-- Whether the foreign keys of a table find their parents. -/
def findsParents (s : Schema) (t : StoredTable) : Bool :=
  t.foreignKeys.all fun fk => (parentKey? s fk).isSome

/-- The foreign keys that refer to a table. -/
def referencesTo (s : Schema) (t : StoredTable) : List ForeignKey :=
  (s.tables.flatMap (·.foreignKeys)).filter fun fk => Text.sameName fk.target.table t.name

/-- Whether the foreign keys that refer to a table find their key in it. -/
def isSoundParent (s : Schema) (t : StoredTable) : Bool :=
  (referencesTo s t).all fun fk => (parentKey? s fk).isSome

/-! ## What becomes of orphans -/

/-- A row with some of its values replaced. -/
def replaceValues (row : Row) (columns : List Nat) (f : Nat → Value) : Row :=
  { row with values := row.values.mapIdx fun i v => if columns.contains i then f i else v }

/-- The value that a column takes by default, if that is a literal. -/
def literalDefault (t : StoredTable) (position : Nat) : Value :=
  match (t.columns[position]?).bind (·.defaultValue) with
  | some (.literal v) => v
  | _ => .null

/-- The first of some columns that does not take NULL. -/
def firstNotNull? (t : StoredTable) (columns : List Nat) : Option StoredColumn :=
  (columns.filterMap fun i => t.columns[i]?).find? (·.isNotNull)

/-- What becomes of an orphan: the row that takes its place, none if it is deleted. -/
def settleOrphan (t : StoredTable) (fk : ForeignKey) (row : Row) : Except Failure (Option Row) :=
  match fk.target.onDelete with
  | .cascade => .ok none
  | .refuse => .ok (some row)
  | .restrict => .error (.raised .abort "FOREIGN KEY constraint failed")
  | .setDefault => .ok (some (replaceValues row fk.columns (literalDefault t)))
  | .setNull =>
    match firstNotNull? t fk.columns with
    | some c => .error (.notNull t.name c.name)
    | none => .ok (some (replaceValues row fk.columns fun _ => .null))

/-- Whether a row refers to a row that was there before and is gone. -/
def hasLostParent (before s : Schema) (fk : ForeignKey) (row : Row) : Bool :=
  isOrphan s fk row && !isOrphan before fk row

/-- What becomes of a row, one foreign key after the other. -/
def settleRow (before s : Schema) (t : StoredTable) (row : Row) : Except Failure (Option Row) :=
  t.foreignKeys.foldlM (fun kept fk =>
    match kept with
    | some row => if hasLostParent before s fk row then settleOrphan t fk row else .ok (some row)
    | none => .ok none) (some row)

/-- What becomes of the rows of a table. -/
def settleTable (before s : Schema) (t : StoredTable) : Except Failure StoredTable := do
  return { t with rows := (← t.rows.mapM (settleRow before s t)).filterMap id }

/-- What becomes of an object of the schema. -/
def settleObject (before s : Schema) : DatabaseObject → Except Failure DatabaseObject
  | .table t => do return .table (← settleTable before s t)
  | o => .ok o

/-- Whether two schemas hold the same rows. -/
def sameRows (a b : Schema) : Bool :=
  a.tables.map (·.rows) = b.tables.map (·.rows)

/-- Settle the orphans that were none before, until nothing changes, at most so many times. -/
def settleTimes (before : Schema) : Nat → Schema → Except Failure Schema
  | 0, s => .ok s
  | n + 1, s => do
    let settled ← s.mapM (settleObject before s)
    if sameRows s settled then return s
    settleTimes before n settled

/-- The number of values stored, and of rows. Every round of settling that changes something
deletes a row or replaces a value for good. -/
def settlingBound (s : Schema) : Nat :=
  s.tables.foldl (fun n t => n + t.rows.length * (t.columns.length + 1)) 1

/-- Settle the orphans that were none before. -/
def settle (before s : Schema) : Except Failure Schema :=
  settleTimes before (settlingBound s) s

end Database

end Tablewright
