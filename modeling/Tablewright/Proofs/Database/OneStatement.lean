import Tablewright.Database.Script
import Tablewright.Proofs.Sql.Reading

/-!
# Texts of one statement

A text with parameters is run if it is one statement (`IsStatement`). What becomes of it is what
becomes of the statement it is read as, provided that the statement has every parameter that is
bound (`runQuery_eq_run`); the value of a parameter is the last that is given for it.
-/

namespace Tablewright

open Sql Grammar

/-- The text is this statement and nothing more. -/
def IsStatement (text : String) (s : Statement) : Prop :=
  ∃ rest, readStatement (lex text) = .ok (some (s, rest)) ∧ readStatement rest = .ok none

theorem dropEmptyStatements_eq {lexemes : List Lexeme} (h : front lexemes ≠ .symbol ";") :
    dropEmptyStatements lexemes = lexemes := by
  cases lexemes with
  | nil => rfl
  | cons l rest => exact if_neg h

theorem readStatement_finish {lexemes : List Lexeme} (h : lexemes.map (·.token) = [.finish]) :
    readStatement lexemes = .ok none := by
  have hfront := front_eq h
  rw [readStatement, dropEmptyStatements_eq (by simp [hfront])]
  simp [hfront]

/-- A text is the statement that the grammar takes off its tokens. -/
theorem isStatement_of_takes {text : String} {t : Token} {ts : List Token} {s : Statement}
    (hlex : (lex text).map (·.token) = t :: ts) (hsemicolon : t ≠ .symbol ";")
    (hfinish : t ≠ .finish) (h : Takes statement (t :: ts) s [.finish]) : IsStatement text s := by
  have hfront := front_eq hlex
  obtain ⟨rest, hrest, hrun⟩ := h _ hlex
  refine ⟨rest, ?_, readStatement_finish hrest⟩
  rw [readStatement, dropEmptyStatements_eq (by rwa [hfront])]
  simp [hfront, hfinish, hrun]

namespace Database

theorem run_of_prepare_error {db : Database} {s : Statement} {e : Failure}
    (h : db.prepare s = .error e) (lastId : Int) (parameter : String → Value) :
    db.run lastId parameter s = db.unchanged lastId (.error e) := by
  cases s with
  | write verb name columns rows =>
    rw [prepare] at h
    rw [run]
    cases hw : db.prepareWrite verb name columns rows with
    | ok w => simp [hw, bind, Except.bind, pure, Except.pure] at h
    | error e' =>
      obtain rfl : e' = e := by simpa [hw, bind, Except.bind] using h
      rfl
  | delete name condition =>
    rw [prepare] at h
    rw [run]
    cases hd : db.prepareDelete name condition with
    | ok d => simp [hd, bind, Except.bind, pure, Except.pure] at h
    | error e' =>
      obtain rfl : e' = e := by simpa [hd, bind, Except.bind] using h
      rfl
  | query q =>
    rw [prepare] at h
    rw [run]
    split at h
    · cases h
    · rename_i hq
      cases h
      rw [if_neg hq]
  | _ => cases h

/-- **A text is run as its statement.** That the statement makes sense is found out twice, with the
same result. -/
theorem runQuery_eq_run {text : String} {s : Statement} (h : IsStatement text s) (db : Database)
    (lastId : Int) {parameters : Parameters}
    (hp : ∀ p ∈ parameters, ":" ++ p.1 ∈ statementParameters s) :
    db.runQuery lastId text parameters = db.run lastId (binding parameters) s := by
  obtain ⟨rest, hread, hrest⟩ := h
  have honly : db.onlyStatement text = (db.prepare s).map fun _ => some s := by
    simp only [onlyStatement, hread, bind, Except.bind]
    cases db.prepare s <;> simp [hrest, Except.map, pure, Except.pure]
  unfold runQuery
  rw [honly]
  cases hs : db.prepare s with
  | error e => exact (run_of_prepare_error hs lastId _).symm
  | ok _ =>
    have hunknown : unknownParameter? parameters (statementParameters s) = none := by
      rw [unknownParameter?, List.find?_eq_none]
      intro n hn
      obtain ⟨p, hmem, rfl⟩ := List.mem_map.1 hn
      simpa using hp p hmem
    simp [Except.map, hunknown]

/-- A script of one statement leaves what the statement leaves. -/
theorem runScript_of_isStatement {script : String} {s : Statement} (h : IsStatement script s)
    (db : Database) (lastId : Int) :
    let o := db.run lastId unbound s
    db.runScript lastId script = ⟨o.database, o.lastId, o.failure?⟩ := by
  obtain ⟨rest, hread, hrest⟩ := h
  intro o
  have hbehind : ∀ fuel db' id, runStatements rest db' id fuel = ⟨db', id, none⟩ := by
    intro fuel db' id
    cases fuel with
    | zero => rfl
    | succ fuel => rw [runStatements, hrest]
  rw [runScript, runStatements, hread, Outcome.failure?]
  cases hresult : (db.run lastId unbound s).result with
  | error e => simp only [o, hresult]
  | ok _ => simp only [o, hresult, hbehind]

end Database

end Tablewright
