import Tablewright.Database.Run
import Tablewright.Sql.Grammar.Statement

/-!
# Running a script

A script is run statement by statement. Each statement is read only when those before it have
run, so a script that fails has done everything in front of the statement that failed.
-/

namespace Tablewright

open Sql

/-- Skip the semicolons of empty statements. -/
def dropEmptyStatements : List Lexeme → List Lexeme
  | [] => []
  | l :: rest => if l.token = .symbol ";" then dropEmptyStatements rest else l :: rest

/-- The first statement of a script and what follows it, none if there is no statement. -/
def readStatement (lexemes : List Lexeme) :
    Except Failure (Option (Statement × List Lexeme)) :=
  let lexemes := dropEmptyStatements lexemes
  if Grammar.front lexemes = .finish then .ok none
  else
    match Grammar.statement.run lexemes with
    | some result => .ok (some result)
    | none => .error .invalid

/-- What became of a script. -/
structure ScriptOutcome where
  database : Database
  /-- The row id written last. -/
  lastId : Int
  /-- Why it stopped before its end. -/
  failure : Option Failure

namespace Database

/-- Run the statements of a script; `fuel` bounds their number. -/
def runStatements (lexemes : List Lexeme) (db : Database) (lastId : Int) : Nat → ScriptOutcome
  | 0 => ⟨db, lastId, none⟩
  | fuel + 1 =>
    match readStatement lexemes with
    | .error e => ⟨db, lastId, some e⟩
    | .ok none => ⟨db, lastId, none⟩
    | .ok (some (s, rest)) =>
      let outcome := db.run lastId unbound s
      match outcome.result with
      | .error e => ⟨outcome.database, outcome.lastId, some e⟩
      | .ok _ => runStatements rest outcome.database outcome.lastId fuel

/-- Run a script. -/
def runScript (db : Database) (lastId : Int) (script : String) : ScriptOutcome :=
  let lexemes := lex script
  runStatements lexemes db lastId (lexemes.length + 1)

/-- The only statement of a text. -/
def onlyStatement (db : Database) (text : String) : Except Failure (Option Statement) := do
  match ← readStatement (lex text) with
  | none => return none
  | some (s, rest) =>
    db.prepare s
    match ← readStatement rest with
    | none => return some s
    | some (next, _) =>
      db.prepare next
      throw .severalStatements

/-- A value as it is bound: a number that is none is NULL. -/
def boundValue : Value → Value
  | .real x => if x.isNaN then .null else .real x
  | v => v

/-- The value that is bound to a parameter, the last one given for it. -/
def binding (parameters : Parameters) (name : String) : Value :=
  match parameters.reverse.find? fun p => ":" ++ p.1 == name with
  | some p => boundValue p.2
  | none => .null

/-- The first parameter that a statement does not have. -/
def unknownParameter? (parameters : Parameters) (names : List String) : Option String :=
  (parameters.map fun p => ":" ++ p.1).find? fun n => !names.contains n

/-- Run the only statement of a text with parameters. -/
def runQuery (db : Database) (lastId : Int) (text : String) (parameters : Parameters) : Outcome :=
  match db.onlyStatement text with
  | .error e => db.unchanged lastId (.error e)
  | .ok statement =>
    let names := (statement.map statementParameters).getD []
    match unknownParameter? parameters names, statement with
    | some name, _ => db.unchanged lastId (.error (.unknownParameter name))
    | none, none => db.unchanged lastId (.error .nothing)
    | none, some s => db.run lastId (binding parameters) s

end Database

end Tablewright
