import Tablewright.Database.Basic
import Tablewright.Sql.Resolve

/-!
# Tables from their definitions

`StoredTable.ofDefinition?` builds an empty table from a definition, or finds that the definition
makes no sense: a column defined twice, a second primary key, a key or condition over a column
that does not exist, a default value that is not constant. A primary key that is a single column
of the type `INTEGER` is the row id; every other primary key, and every unique constraint, is a
unique key of its own, and two of them over the same columns are one.
-/

namespace Tablewright.Sql

/-! ## Key terms -/

/-- The collations that are there. -/
def isCollation (name : String) : Bool :=
  ["binary", "nocase", "rtrim"].contains (Text.lowerAscii name)

/-- The column that an expression names as a term of a key; a text is a name there. -/
def Expr.keyColumn? : Expr → Option String
  | .name none n _ => some n
  | .literal (.text s) => some s
  | .collate e collation => if isCollation collation then e.keyColumn? else none
  | _ => none

namespace TableDefinition

/-- The position of a column in a definition. -/
def position? (d : TableDefinition) (column : String) : Option Nat :=
  d.columns.findIdx? fun c => Text.sameName c.name column

/-- The positions of the columns that a key names. -/
def termPositions? (d : TableDefinition) (terms : List KeyTerm) : Option (List Nat) :=
  terms.mapM fun t => do d.position? (← t.expr.keyColumn?)

/-! ## Keys -/

/-- A key as it is declared, at a column or for the table. -/
inductive DeclaredKey
  | primary (columns : List Nat) (descending autoIncrement : Bool)
  | unique (columns : List Nat)
  deriving DecidableEq, Repr

/-- The keys that a column declares. -/
def columnKeys (position : Nat) (c : ColumnDefinition) : List DeclaredKey :=
  c.constraints.filterMap fun
    | .primaryKey descending autoIncrement => some (.primary [position] descending autoIncrement)
    | .unique => some (.unique [position])
    | _ => none

/-- The keys that a constraint on the table declares. -/
def tableKeys? (d : TableDefinition) : TableConstraint → Option (List DeclaredKey)
  | .primaryKey terms autoIncrement => do
    return [.primary (← d.termPositions? terms) false autoIncrement]
  | .unique terms => do return [.unique (← d.termPositions? terms)]
  | _ => some []

/-- All keys in the order of their declaration. -/
def declaredKeys? (d : TableDefinition) : Option (List DeclaredKey) := do
  let ofTable ← d.constraints.mapM (tableKeys? d)
  return (d.columns.mapIdx columnKeys).flatten ++ ofTable.flatten

/-- The columns of a primary key. -/
def DeclaredKey.primaryColumns? : DeclaredKey → Option (List Nat)
  | primary columns _ _ => some columns
  | unique _ => none

/-- The columns of the primary key, none if there is none; two primary keys make no sense. -/
def primaryColumns? (keys : List DeclaredKey) : Option (List Nat) :=
  match keys.filterMap (·.primaryColumns?) with
  | [] => some []
  | [columns] => some columns
  | _ => none

/-- The column whose values would be the row ids of a table that has them. -/
def rowidColumn? (d : TableDefinition) : DeclaredKey → Option Nat
  | .primary [position] false _ =>
    match d.columns[position]? with
    | some c => if c.declaredType = "INTEGER" then some position else none
    | none => none
  | _ => none

/-- Whether a key declares that row ids are never used again. -/
def DeclaredKey.isAutoIncrement : DeclaredKey → Bool
  | primary _ _ autoIncrement => autoIncrement
  | unique _ => false

/-- The unique key for a declared one. -/
def DeclaredKey.toKey : DeclaredKey → Key
  | primary columns _ _ => ⟨columns, true⟩
  | unique columns => ⟨columns, false⟩

/-- Put a key behind others, or into the place of the one over the same columns. -/
def insertKey (keys : List Key) (k : Key) : List Key :=
  if keys.any (·.columns = k.columns) then
    keys.map fun old =>
      if old.columns = k.columns then { old with isPrimary := old.isPrimary || k.isPrimary }
      else old
  else keys ++ [k]

/-- The unique keys: all declared ones but the row id, which a table without row ids has for its
last key. -/
def uniqueKeys (d : TableDefinition) (keys : List DeclaredKey) : List Key :=
  let (rowid, others) := keys.partition fun k => (d.rowidColumn? k).isSome
  (if d.withoutRowid then others ++ rowid else others).foldl (fun ks k => insertKey ks k.toKey) []

/-- Whether the keys fit the kind of the table: only a row id is incremented, and a table without
row ids has a primary key. -/
def keysFit (d : TableDefinition) (keys : List DeclaredKey) : Bool :=
  (keys.all fun k => !k.isAutoIncrement || ((d.rowidColumn? k).isSome && !d.withoutRowid)) &&
    (!d.withoutRowid || keys.any fun k => k.primaryColumns?.isSome)

/-! ## Columns -/

/-- The default value among constraints, the last of several. -/
def defaultValue? (constraints : List ColumnConstraint) : Option Expr :=
  (constraints.filterMap fun
    | .default e => some e
    | _ => none).getLast?

/-- The column for a definition. -/
def storedColumn (c : ColumnDefinition) (isNotNull : Bool) : StoredColumn where
  name := c.name
  declaredType := c.declaredType
  affinity := .ofDeclaredType c.declaredType
  isNotNull := isNotNull || c.constraints.any (· matches .notNull)
  defaultValue := defaultValue? c.constraints

/-- Whether the constraints of a column make sense by themselves. -/
def constraintMakesSense : ColumnConstraint → Bool
  | .default e => e.isConstant
  | .references target => target.columns.length ≤ 1
  | .collate collation => isCollation collation
  | _ => true

/-- Whether no column is defined twice. -/
def columnsDiffer : List ColumnDefinition → Bool
  | [] => true
  | c :: rest => !(rest.any fun d => Text.sameName c.name d.name) && columnsDiffer rest

/-! ## Conditions and foreign keys -/

/-- The conditions on a row: those of the columns, then those of the table. -/
def checks (d : TableDefinition) : List (Expr × String) :=
  let ofColumns := d.columns.flatMap fun c => c.constraints.filterMap fun
    | .check e label => some (e, label)
    | _ => none
  let ofTable := d.constraints.filterMap fun
    | .check e label => some (e, label)
    | _ => none
  ofColumns ++ ofTable

/-- The foreign keys that a column declares. -/
def columnReferences (position : Nat) (c : ColumnDefinition) : List ForeignKey :=
  c.constraints.filterMap fun
    | .references target => some ⟨[position], target⟩
    | _ => none

/-- The foreign keys that a constraint on the table declares. -/
def tableReferences? (d : TableDefinition) : TableConstraint → Option (List ForeignKey)
  | .foreignKey columns target => do
    let positions ← columns.mapM d.position?
    if target.columns.isEmpty || target.columns.length = positions.length then
      return [⟨positions, target⟩]
    none
  | _ => some []

/-- All foreign keys. -/
def foreignKeys? (d : TableDefinition) : Option (List ForeignKey) := do
  let ofTable ← d.constraints.mapM (tableReferences? d)
  return (d.columns.mapIdx columnReferences).flatten ++ ofTable.flatten

/-- Where a condition on a row of the table stands. -/
def conditionPlace (t : StoredTable) : Place where
  scopes := [[t.nullFrame]]
  table? := fun _ => none
  allowsQueries := false
  allowsParameters := false

end TableDefinition

end Tablewright.Sql

namespace Tablewright

open Sql TableDefinition

/-- The empty table of a definition, if the definition makes sense. -/
def StoredTable.ofDefinition? (d : TableDefinition) : Option StoredTable := do
  let keys ← declaredKeys? d
  let primaryKey ← primaryColumns? keys
  let foreignKeys ← foreignKeys? d
  let isSound := columnsDiffer d.columns && keysFit d keys &&
    d.columns.all fun c => c.constraints.all constraintMakesSense
  let table : StoredTable :=
    { name := d.name.name
      columns := d.columns.mapIdx fun i c =>
        storedColumn c (d.withoutRowid && primaryKey.contains i)
      primaryKey
      rowidColumn := if d.withoutRowid then none else keys.findSome? (rowidColumn? d)
      isAutoIncrement := keys.any (·.isAutoIncrement)
      isWithoutRowid := d.withoutRowid
      checks := TableDefinition.checks d
      keys := TableDefinition.uniqueKeys d keys
      foreignKeys
      source := d.source
      rows := []
      counter := 0 }
  if isSound && table.checks.all fun c => c.1.resolves (conditionPlace table) then return table
  none

end Tablewright
