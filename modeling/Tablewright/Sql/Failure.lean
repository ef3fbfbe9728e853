import Tablewright.Sql.Expr
import Tablewright.Statement.Batch

/-!
# Failures of statements

Why a statement did not run to its end. Each cause has the result code by which a caller tells
it from others (`Failure.code?`), and violated constraints have a text (`Failure.text?`).
-/

namespace Tablewright.Sql

/-- Why a statement failed. -/
inductive Failure
  /-- The statement is no SQL, or names something that does not exist. -/
  | invalid
  /-- There is no statement. -/
  | nothing
  /-- Another statement follows where one was expected. -/
  | severalStatements
  /-- A parameter is bound that the statement does not have. -/
  | unknownParameter (name : String)
  /-- NULL in a column that is NOT NULL. -/
  | notNull (table column : String)
  /-- A violated condition. -/
  | check (label : String)
  /-- A row id or primary key that is taken. -/
  | primaryKey (columns : List String)
  /-- A hidden row id that is taken. -/
  | rowid (table : String)
  /-- A unique key that is taken. -/
  | unique (columns : List String)
  /-- A row refers to no row. -/
  | foreignKey
  /-- An error raised by a trigger. -/
  | raised (kind : RaiseKind) (message : String)
  /-- A row id that is no integer. -/
  | mismatch
  /-- No row id is left. -/
  | full
  /-- A text that is too long. -/
  | tooBig
  /-- A row was asked for where there is none. -/
  | noRow
  /-- A failure of which only the result code is known. -/
  | coded (code : Int)
  deriving DecidableEq, Repr

namespace Failure

/-- The result code of a failure of the database itself. -/
def code? : Failure → Option Int
  | invalid => some 1
  | nothing => some 21
  | severalStatements => none
  | unknownParameter _ => none
  | notNull _ _ => some 1299
  | check _ => some 275
  | primaryKey _ => some 1555
  | rowid _ => some 2579
  | unique _ => some 2067
  | foreignKey => some 787
  | raised _ _ => some 1811
  | mismatch => some 20
  | full => some 13
  | tooBig => some 18
  | noRow => none
  | coded code => some code

/-- What the database reports about a violated constraint. -/
def text? : Failure → Option String
  | notNull table column => some ("NOT NULL constraint failed: " ++ table ++ "." ++ column)
  | check label => some ("CHECK constraint failed: " ++ label)
  | primaryKey columns => some ("UNIQUE constraint failed: " ++ Batch.commaSeparated columns)
  | rowid table => some ("UNIQUE constraint failed: " ++ table ++ ".rowid")
  | unique columns => some ("UNIQUE constraint failed: " ++ Batch.commaSeparated columns)
  | foreignKey => some "FOREIGN KEY constraint failed"
  | raised _ message => some message
  | _ => none

/-- Whether a row was not written because one like it is there already: its key is taken, or a
trigger says so. -/
def isDuplicate (f : Failure) : Bool :=
  f.code?.any [1555, 1811, 2067].contains

/-- Whether a failure ends the transaction that the statement is in, and undoes all of it: a
trigger asks for that, or no row id is left, which counts as a full disk. -/
def endsTransaction : Failure → Bool
  | raised .rollback _ => true
  | full => true
  | _ => false

end Failure

end Tablewright.Sql
