import Tablewright.Database.Limits
import Tablewright.Database.Script

/-!
# Database engines

What it takes of a database engine to extract tables (`Engine`): it runs the statements of a script
one after the other, and it answers two queries about the catalog that they leave, one for the tables
and one for the columns of a table. Either query may fail. `Engine.builtIn` is the engine of this
library; it reads the statements of `Sql.Statement` and refuses all others.
-/

namespace Tablewright

open Sql

/-- A table as the catalog lists it. -/
structure CatalogEntry where
  name : String
  /-- The text of its definition, if there is one. -/
  definition : Option String
  deriving DecidableEq, Repr

/-- A column as the catalog tells of it. -/
structure CatalogColumn where
  name : String
  declaredType : String
  isNotNull : Bool
  isPrimaryKey : Bool
  deriving DecidableEq, Repr

/-- A database engine. -/
structure Engine where
  /-- What a database holds. -/
  Store : Type
  /-- What a script is made of. -/
  Statement : Type
  /-- A new database. -/
  fresh : Except Failure Store
  /-- The statements of a script as far as it can be read, and why it cannot be read to its end. -/
  statements : String → List Statement × Option Failure
  /-- Run a statement. -/
  run : Store → Statement → Except Failure Store
  /-- The tables of the main schema in the order of their creation. -/
  entries : Store → Except Failure (List CatalogEntry)
  /-- The columns of what a name means, in their order. -/
  columns : Store → String → Except Failure (List CatalogColumn)

/-- Run statements that were read, up to the first that fails or to the point where no more could be
read. -/
def Engine.runRead (e : Engine) (store : e.Store) (read : List e.Statement × Option Failure) :
    Except Failure e.Store := do
  let store ← read.1.foldlM e.run store
  match read.2 with
  | some failure => throw failure
  | none => return store

/-- Run a script up to its end or to the first failure. -/
def Engine.execute (e : Engine) (store : e.Store) (script : String) : Except Failure e.Store :=
  e.runRead store (e.statements script)

/-! ## The catalog of a database -/

/-- The entry of a table. -/
def StoredTable.catalogEntry (t : StoredTable) : CatalogEntry :=
  ⟨t.name, some ("CREATE TABLE " ++ t.source)⟩

/-- The entry of an object, if it is a table. -/
def DatabaseObject.listed? : DatabaseObject → Option CatalogEntry
  | table t => some t.catalogEntry
  | counters => some ⟨"sqlite_sequence", some "CREATE TABLE sqlite_sequence(name,seq)"⟩
  | _ => none

/-- The columns of a table. -/
def StoredTable.catalogColumns (t : StoredTable) : List CatalogColumn :=
  t.columns.mapIdx fun i c => ⟨c.name, c.declaredType, c.isNotNull, t.primaryKey.contains i⟩

namespace Database

/-- The name under which the columns of a table are queried. A table or a view of this name stands in
the way of every such query. -/
def columnQueryName : String :=
  "pragma_table_info"

/-- Whether the columns of tables can be queried. -/
def hasColumnQuery (db : Database) : Bool :=
  !db.main.hasRelation columnQueryName && !db.temporary.hasRelation columnQueryName

/-- The columns of the table that a name means, none if it means nothing. Of a view they cannot be
told. -/
def catalogColumns (db : Database) (name : String) : Except Failure (List CatalogColumn) :=
  if db.hasColumnQuery then
    match db.locate? ⟨none, name⟩ (·.hasRelation name) with
    | none => .ok []
    | some kind =>
      match (db.schema kind).table? name with
      | some t => .ok t.catalogColumns
      | none => .error .invalid
  else .error .invalid

end Database

/-! ## The engine of this library -/

/-- The statements of a script as far as it can be read; `fuel` bounds their number. -/
def readStatements (lexemes : List Lexeme) : Nat → List Statement × Option Failure
  | 0 => ([], none)
  | fuel + 1 =>
    match readStatement lexemes with
    | .error failure => ([], some failure)
    | .ok none => ([], none)
    | .ok (some (s, rest)) =>
      let (statements, failure?) := readStatements rest fuel
      (s :: statements, failure?)

/-- The statements of a script, which may not be too long. -/
def scriptStatements (script : String) : List Statement × Option Failure :=
  if script.utf8ByteSize ≤ longestText then
    let lexemes := lex script
    readStatements lexemes (lexemes.length + 1)
  else ([], some .tooBig)

/-- The engine of this library. A store is a database and the row id written last. -/
abbrev Engine.builtIn : Engine where
  Store := Database × Int
  Statement := Sql.Statement
  fresh := .ok (.empty, 0)
  statements := scriptStatements
  run := fun (db, lastId) s =>
    let outcome := db.run lastId Database.unbound s
    if s.isWithinLimits then outcome.result.map fun _ => (outcome.database, outcome.lastId)
    else .error .invalid
  entries := fun (db, _) => .ok (db.main.filterMap (·.listed?))
  columns := fun (db, _) name => db.catalogColumns name

end Tablewright
