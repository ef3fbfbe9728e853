import Tablewright.Proofs.Database.FixedText
import Tablewright.Proofs.Session.Effects

/-!
# Transactions

A transaction is all or nothing (`transaction_all_or_nothing`): what its operation did is kept if it
succeeds, and if it fails then the database and the transaction around it are what they were. This
holds of every operation that is put together from statements, scripts and transactions (`Calls`),
whatever it makes of their failures, as long as none of these ends the transaction on its own. Where
one does, what follows it is outside of any transaction and stays (`transaction_not_undone`).
-/

namespace Tablewright.Session

open Sql Database

/-! ## The ends of a transaction -/

/-- The database that outlives the session: it has nothing of what an open transaction did. -/
def committed (s : Session) : Database :=
  s.saved.getD s.database

/-- A way to end a transaction that keeps all that was done in it, unless it fails. -/
def Commits (finish : Session → Except SessionError Session) : Prop :=
  ∀ s s', finish s = .ok s' → s'.database = s.database ∧ s'.saved = none

theorem commits_commit? : Commits commit? := by
  intro s s' h
  rw [commit?] at h
  split at h <;> cases h
  exact ⟨rfl, rfl⟩

theorem begin?_eq_some_iff {s begun : Session} :
    begin? s = some begun ↔ s.saved = none ∧ begun = { s with saved := some s.database } := by
  rw [begin?]
  cases s.saved <;> simp [eq_comm]

theorem begin?_eq_none_iff {s : Session} : begin? s = none ↔ s.saved ≠ none := by
  rw [begin?]
  cases s.saved <;> simp

theorem afterFailure_of_stays {failure : Option Failure}
    (h : ∀ e, failure = some e → e.endsTransaction = false) (s : Session) :
    afterFailure failure s = s := by
  cases failure with
  | none => rfl
  | some e =>
    rw [afterFailure, Option.any_some, h e rfl]
    exact if_neg Bool.false_ne_true

variable {α β : Type} {finish : Session → Except SessionError Session}

/-- What a transaction comes to. -/
theorem run_transactionBy (finish : Session → Except SessionError Session) (body : SessionM α)
    (s : Session) :
    (transactionBy finish body).run.run s =
      match begin? s with
      | none => (.error (.database .invalid), s)
      | some begun =>
        match body.run.run begun with
        | (.error e, left) => (.error e, rollback left)
        | (.ok a, left) =>
          match finish left with
          | .ok done => (.ok a, done)
          | .error e => (.error e, rollback left) := by
  have hget : ∀ s, (getThe Session : SessionM Session).run.run s = (.ok s, s) := fun _ => rfl
  rw [transactionBy, run_bind, hget]
  cases hbegin : begin? s with
  | none =>
    simp only [hbegin]
    rfl
  | some begun =>
    have hset : (set begun : SessionM PUnit).run.run s = (.ok (), begun) := rfl
    simp only [hbegin]
    rw [run_bind, hset]
    dsimp only
    rw [run_tryCatch, run_bind]
    cases body.run.run begun with
    | mk r left =>
      cases r with
      | error e => rfl
      | ok a =>
        simp only [run_bind, hget]
        cases finish left <;> rfl

/-- In a transaction there is no other one. -/
theorem transactionBy_of_open (finish : Session → Except SessionError Session)
    (body : SessionM α) {s : Session} (h : begin? s = none) :
    resultBy (transactionBy finish body) s = .error (.database .invalid) ∧
      leftBy (transactionBy finish body) s = s := by
  rw [resultBy, leftBy, run_transactionBy, h]
  exact ⟨rfl, rfl⟩

/-- A transaction that begins ends in one of two ways. -/
theorem transactionBy_cases (finish : Session → Except SessionError Session)
    (body : SessionM α) {s begun : Session} (h : begin? s = some begun) :
    (∃ a done, resultBy body begun = .ok a ∧ finish (leftBy body begun) = .ok done ∧
      resultBy (transactionBy finish body) s = .ok a ∧
      leftBy (transactionBy finish body) s = done) ∨
    (∃ e, resultBy (transactionBy finish body) s = .error e ∧
      leftBy (transactionBy finish body) s = rollback (leftBy body begun)) := by
  simp only [resultBy, leftBy, run_transactionBy, h]
  obtain ⟨r, left⟩ := body.run.run begun
  cases r with
  | error e => exact .inr ⟨e, rfl, rfl⟩
  | ok a =>
    dsimp only
    cases hdone : finish left with
    | error e => exact .inr ⟨e, rfl, rfl⟩
    | ok done => exact .inl ⟨a, done, rfl, rfl, rfl, rfl⟩

/-! ## What is run in a transaction -/

/-- An operation, begun in a session, that calls statements, scripts and transactions, one after
the other, and may go on after a failure of any of them. All transactions end by `finish`, and
statements and scripts have no other failures than those allowed. -/
inductive Calls (finish : Session → Except SessionError Session) (allowed : Failure → Prop) :
    {α : Type} → SessionM α → Session → Prop
  /-- Something that has nothing to do with the database. -/
  | aside {α : Type} {operation : SessionM α} {s : Session}
      (hdatabase : (leftBy operation s).database = s.database)
      (hsaved : (leftBy operation s).saved = s.saved) : Calls finish allowed operation s
  | query {text : String} {parameters : Parameters} {s : Session}
      (h : ∀ e, (s.database.runQuery s.lastId text parameters).failure? = some e → allowed e) :
      Calls finish allowed (query text parameters) s
  | execute {script : String} {s : Session}
      (h : ∀ e, (s.database.runScript s.lastId script).failure = some e → allowed e) :
      Calls finish allowed (execute script) s
  /-- The result is looked at and may be ignored. -/
  | attempt {α : Type} {operation : SessionM α} {s : Session}
      (h : Calls finish allowed operation s) : Calls finish allowed (attempt operation) s
  | transaction {α : Type} {operation : SessionM α} {s : Session}
      (h : ∀ begun, begin? s = some begun → Calls finish allowed operation begun) :
      Calls finish allowed (transactionBy finish operation) s
  | bind {α β : Type} {operation : SessionM α} {next : α → SessionM β} {s : Session}
      (h : Calls finish allowed operation s)
      (hnext : ∀ a, resultBy operation s = .ok a →
        Calls finish allowed (next a) (leftBy operation s)) :
      Calls finish allowed (operation >>= next) s

theorem Calls.throw {allowed : Failure → Prop} (e : SessionError) (s : Session) :
    Calls finish allowed (throw e : SessionM α) s :=
  .aside rfl rfl

/-- A batch is one statement for all rows. -/
theorem Calls.write {allowed : Failure → Prop} {verb : WriteVerb} {table : String}
    {columns : List String} {rows : List Fields} {s : Session}
    (h : ∀ text parameters, Batch.statement verb table columns rows = .ok (text, parameters) →
      ∀ e, (s.database.runQuery s.lastId text parameters).failure? = some e → allowed e) :
    Calls finish allowed (write verb table columns rows) s := by
  cases hstatement : Batch.statement verb table columns rows with
  | error e =>
    rw [Session.write, hstatement]
    exact .aside rfl rfl
  | ok statement =>
    obtain ⟨text, parameters⟩ := statement
    rw [Session.write, hstatement]
    exact .bind (.query (h text parameters hstatement)) fun _ _ => .aside rfl rfl

theorem Calls.toleratingDuplicate {allowed : Failure → Prop} {operation : SessionM Unit}
    {s : Session} (h : Calls finish allowed operation s) :
    Calls finish allowed (toleratingDuplicate operation) s := by
  refine .bind (.attempt h) fun result _ => ?_
  cases ignoringDuplicate result <;> exact .aside rfl rfl

theorem leftBy_bind_of_ok {operation : SessionM α} {next : α → SessionM β} {s : Session} {a : α}
    (h : resultBy operation s = .ok a) :
    leftBy (operation >>= next) s = leftBy (next a) (leftBy operation s) := by
  rw [resultBy] at h
  rw [leftBy, run_bind, leftBy, leftBy]
  generalize operation.run.run s = o at h
  obtain ⟨r, s'⟩ := o
  cases h
  rfl

theorem leftBy_bind_of_error {operation : SessionM α} {next : α → SessionM β} {s : Session}
    {e : SessionError} (h : resultBy operation s = .error e) :
    leftBy (operation >>= next) s = leftBy operation s := by
  rw [resultBy] at h
  rw [leftBy, run_bind, leftBy]
  generalize operation.run.run s = o at h
  obtain ⟨r, s'⟩ := o
  cases h
  rfl

/-- **No call leaves another transaction open than it found.** By induction on the calls: the end
of a transaction that one of them begins is the end of that one. -/
theorem Calls.saved_leftBy (hfinish : Commits finish) {operation : SessionM α} {s : Session}
    (h : Calls finish (fun e => e.endsTransaction = false) operation s) :
    (leftBy operation s).saved = s.saved := by
  induction h with
  | aside _ hsaved => exact hsaved
  | query h =>
    rename_i text parameters s
    rw [leftBy, run_query, runQuery, afterFailure_of_stays h]
    rfl
  | execute h =>
    rename_i script s
    rw [leftBy_execute rfl, afterFailure_of_stays h]
    rfl
  | attempt h ih => exact ih
  | transaction h ih =>
    rename_i operation s
    cases hbegin : begin? s with
    | none => rw [(transactionBy_of_open finish operation hbegin).2]
    | some begun =>
      have hsaved : s.saved = none := (begin?_eq_some_iff.1 hbegin).1
      obtain ⟨a, done, -, hdone, -, hleft⟩ | ⟨e, -, hleft⟩ :=
        transactionBy_cases finish operation hbegin
      · rw [hleft, hsaved, (hfinish _ _ hdone).2]
      · rw [hleft, hsaved]
        rfl
  | bind h hnext ih ihnext =>
    rename_i operation next s
    cases hresult : resultBy operation s with
    | error e => rw [leftBy_bind_of_error hresult, ih]
    | ok a => rw [leftBy_bind_of_ok hresult, ihnext a hresult, ih]

/-- **A transaction is all or nothing.** If it succeeds, the database is committed as the operation
left it. If it fails, for whatever reason, the database is as it was and so is the transaction
around it, if there is one; where there is one, it fails at once. -/
theorem transaction_all_or_nothing (hfinish : Commits finish) (body : SessionM α) (s : Session)
    (hbody : ∀ begun, begin? s = some begun →
      Calls finish (fun e => e.endsTransaction = false) body begun) :
    let result := resultBy (transactionBy finish body) s
    let s' := leftBy (transactionBy finish body) s
    (∀ a, result = .ok a → ∃ begun, begin? s = some begun ∧ resultBy body begun = .ok a ∧
      s'.database = (leftBy body begun).database ∧ s'.committed = s'.database ∧ s'.saved = none) ∧
    (∀ e, result = .error e → s'.database = s.database ∧ s'.saved = s.saved ∧
      s'.committed = s.committed) ∧
    (s.saved ≠ none → result = .error (.database .invalid)) := by
  intro result s'
  cases hbegin : begin? s with
  | none =>
    obtain ⟨hresult, hs'⟩ := transactionBy_of_open finish body hbegin
    refine ⟨fun a ha => ?_, fun e _ => ?_, fun _ => hresult⟩
    · cases hresult.symm.trans ha
    · exact ⟨congrArg database hs', congrArg saved hs', congrArg committed hs'⟩
  | some begun =>
    obtain ⟨hsaved, hbegun⟩ := begin?_eq_some_iff.1 hbegin
    obtain ⟨a, done, hok, hdone, hresult, hleft⟩ | ⟨e, hresult, hleft⟩ :=
      transactionBy_cases finish body hbegin
    · refine ⟨fun a' ha' => ?_, fun e he => ?_, fun hopen => absurd hsaved hopen⟩
      · cases hresult.symm.trans ha'
        obtain ⟨hdatabase, hended⟩ := hfinish _ _ (hdone.trans (congrArg _ hleft.symm))
        exact ⟨begun, rfl, hok, hdatabase, by rw [committed, hended]; rfl, hended⟩
      · cases hresult.symm.trans he
    · refine ⟨fun a' ha' => ?_, fun e' _ => ?_, fun hopen => absurd hsaved hopen⟩
      · cases hresult.symm.trans ha'
      · have hs' : s' = rollback (leftBy body begun) := hleft
        -- What the transaction saved is still there when it ends.
        have hkept : (leftBy body begun).saved = some s.database := by
          rw [(hbody begun hbegin).saved_leftBy hfinish, hbegun]
        have hdatabase : s'.database = s.database := by
          rw [hs', rollback, hkept]
          rfl
        have hended : s'.saved = s.saved := by
          rw [hs', hsaved]
          rfl
        exact ⟨hdatabase, hended, by rw [committed, committed, hdatabase, hended]⟩

/-- An operation that goes on after a transaction within its own, and then fails. -/
def nesting : SessionM Unit := do
  execute "CREATE TABLE t (a)"
  let _ ← attempt (transaction (execute "DROP TABLE t"))
  throw (.batch (.empty "t"))

theorem calls_nesting {s : Session} (hopen : s.saved ≠ none)
    (hfirst : (s.database.runScript s.lastId "CREATE TABLE t (a)").failure = none) :
    Calls commit? (fun e => e.endsTransaction = false) nesting s := by
  have hexecute : Calls commit? (fun e => e.endsTransaction = false)
      (execute "CREATE TABLE t (a)") s :=
    .execute fun e he => by
      rw [hfirst] at he
      cases he
  refine .bind hexecute fun _ _ => .bind (.attempt (.transaction fun begun hbegin => ?_))
    fun _ _ => .throw _ _
  rw [begin?_eq_none_iff.2 (by rwa [hexecute.saved_leftBy commits_commit?])] at hbegin
  cases hbegin

theorem transaction_all_or_nothing_of_nesting :
    Commits commit? ∧
      resultBy (transaction nesting) (start .empty) = .error (.batch (.empty "t")) ∧
      (leftBy (transaction nesting) (start .empty)).database = .empty := by
  have hfirst : (Database.empty.runScript 0 "CREATE TABLE t (a)").failure = none := by
    decide
  have hcalls : ∀ begun, begin? (start .empty) = some begun →
      Calls commit? (fun e => e.endsTransaction = false) nesting begun := by
    rintro _ ⟨⟩
    exact calls_nesting (Option.some_ne_none _) hfirst
  have hresult : resultBy (transaction nesting) (start .empty) = .error (.batch (.empty "t")) := by
    decide
  exact ⟨commits_commit?, hresult,
    ((transaction_all_or_nothing commits_commit? nesting (start .empty) hcalls).2.1 _ hresult).1⟩

/-- A session with two tables, one of which refuses every row and ends the transaction. -/
def refusing : Session :=
  leftBy (execute "CREATE TABLE t (a TEXT); CREATE TABLE u (a TEXT);
    CREATE TRIGGER refuse BEFORE INSERT ON t BEGIN SELECT RAISE(ROLLBACK, 'refused'); END;")
    (start .empty)

/-- An operation that takes the refusal of a row for success. -/
def swallowing : SessionM Unit := do
  write .insert "u" ["a"] [[("a", .text "first")]]
  toleratingDuplicate (write .insert "t" ["a"] [[("a", .text "lost")]])
  write .insert "u" ["a"] [[("a", .text "second")]]

theorem calls_swallowing (s : Session) : Calls finish (fun _ => True) swallowing s :=
  .bind (.write fun _ _ _ _ _ => trivial) fun _ _ =>
    .bind (.toleratingDuplicate (.write fun _ _ _ _ _ => trivial)) fun _ _ =>
      .write fun _ _ _ _ _ => trivial

set_option maxRecDepth 2000 in
/-- **A transaction that fails can leave something**: what is written after it was ended by a
trigger. -/
theorem transaction_not_undone :
    ¬∀ (body : SessionM Unit) (s : Session),
      (∀ begun, begin? s = some begun → Calls commit? (fun _ => True) body begun) →
      ∀ e, resultBy (transaction body) s = .error e →
        (leftBy (transaction body) s).database = s.database := by
  intro h
  have hrun : resultBy (transaction swallowing) refusing = .error (.database .invalid) ∧
      (leftBy (transaction swallowing) refusing).database ≠ refusing.database := by
    have hrefusing : refusing = afterFailure (runChars _).failure _ :=
      leftBy_execute (runScript_of_toList String.toList_ofList)
    rw [hrefusing]
    decide +kernel
  exact hrun.2 (h swallowing refusing (fun begun _ => calls_swallowing begun) _ hrun.1)

end Tablewright.Session
