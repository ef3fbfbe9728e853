import Tablewright.Schema.Affinity
import Tablewright.Sql.Expr
import Tablewright.Text.Ascii

/-!
# What names refer to

The rows that an expression can see. A frame is a row of a table under an alias; the frames of
one query make a scope, and queries inside of a query see its scope behind their own. A name
refers to the only column of that name in the nearest scope that has one (`findName?`); the row
id goes by three names of its own.
-/

namespace Tablewright.Sql

/-- A row under an alias. -/
structure Frame where
  tableAlias : String
  columns : List (String × Affinity)
  values : List Value
  /-- The row id, if the table has one. -/
  rowid : Option Value
  /-- Whether columns are only found under the alias. -/
  isQualifiedOnly : Bool
  deriving Repr

/-- The frames of a query, and behind them those of the queries around it. -/
abbrev Scopes := List (List Frame)

/-- A value with the affinity of its column. -/
structure Cell where
  value : Value
  affinity : Affinity
  deriving Repr

/-- The names of the row id. -/
def rowidNames : List String :=
  ["rowid", "_rowid_", "oid"]

/-- Whether a name is one of the row id. -/
def isRowidName (name : String) : Bool :=
  rowidNames.any (Text.sameName name)

namespace Frame

/-- Whether a name with the given qualifier may refer to the frame. -/
def answersTo (f : Frame) (qualifier : Option String) : Bool :=
  match qualifier with
  | some q => Text.sameName q f.tableAlias
  | none => !f.isQualifiedOnly

/-- The column of the given name. -/
def column? (f : Frame) (name : String) : Option Cell :=
  ((f.columns.zip f.values).find? fun c => Text.sameName c.1.1 name).map fun c =>
    ⟨c.2, c.1.2⟩

/-- The row id, if the name is one of it. -/
def rowid? (f : Frame) (name : String) : Option Cell :=
  if isRowidName name then f.rowid.map fun v => ⟨v, .integer⟩ else none

/-- The frame under another alias. -/
def withAlias (f : Frame) (tableAlias : String) : Frame :=
  { f with tableAlias }

end Frame

/-- What a search in one scope finds. -/
inductive Found
  | nothing
  | one (cell : Cell)
  | several

/-- The only one of the given cells. -/
def onlyCell : List Cell → Found
  | [] => .nothing
  | [cell] => .one cell
  | _ => .several

/-- Search one scope. -/
def searchScope (frames : List Frame) (qualifier : Option String) (name : String) : Found :=
  let eligible := frames.filter (·.answersTo qualifier)
  match onlyCell (eligible.filterMap (·.column? name)) with
  | .nothing => onlyCell (eligible.filterMap (·.rowid? name))
  | found => found

/-- What a name refers to. -/
def findName? (qualifier : Option String) (name : String) : Scopes → Option Cell
  | [] => none
  | scope :: rest =>
    match searchScope scope qualifier name with
    | .one cell => some cell
    | .several => none
    | .nothing => findName? qualifier name rest

/-- The value of a name that refers to no column: a text if it stands between double quotes, or
a truth value. -/
def unboundName? (qualifier : Option String) (name : String) (doubleQuotes : Bool) :
    Option Value :=
  if qualifier.isSome then none
  else if doubleQuotes then some (.text name)
  else if Text.sameName name "true" then some (.integer 1)
  else if Text.sameName name "false" then some (.integer 0)
  else none

end Tablewright.Sql
