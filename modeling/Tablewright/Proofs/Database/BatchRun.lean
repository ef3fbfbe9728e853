import Tablewright.Proofs.Database.Rows
import Tablewright.Proofs.Statement.Binding

/-!
# Running a batch

A batch makes sense in a database if its table is there with its columns and everything that
belongs to the table makes sense (`prepareWrite_batch`). It is then run by writing its rows one
after the other (`run_batch`).
-/

namespace Tablewright.Database

open Sql Batch

variable {db : Database} {kind : SchemaKind} {t : StoredTable} {table : String}
  {listed : List String} {targets : List (Option Nat)}

theorem allResolve_parameters (p : Place) (hp : p.allowsParameters = true) (names : List String) :
    allResolve p (names.map .parameter) = true := by
  induction names with
  | nil => rfl
  | cons n rest ih => simp [allResolve, Expr.resolves, hp, ih]

/-- A write makes sense if its table, the triggers on it and its foreign keys do. -/
theorem prepareWrite_eq {columns : List String} {rows : List (List Expr)} (verb : WriteVerb)
    (hfind : db.findTable? ⟨none, table⟩ = some (kind, t))
    (htargets : writeTargets? t (some columns) = some targets)
    (hlengths : rows.all (·.length = targets.length) = true)
    (hresolve : rows.all (allResolve (db.place [])) = true)
    (htriggers : db.triggersResolve kind t .insert "new" = true)
    (hparents : findsParents (db.schema kind) t = true)
    (hsound : isSoundParent (db.schema kind) t = true) :
    db.prepareWrite verb ⟨none, table⟩ (some columns) rows =
      .ok ⟨kind, t, targets, db.testsAtOnce kind t verb targets rows.length⟩ := by
  simp only [prepareWrite, required, hfind, htargets, ok_bind, hlengths, hresolve, htriggers,
    hparents, hsound, Bool.or_true, Bool.and_true, if_true]
  rfl

theorem prepareWrite_batch (verb : WriteVerb) (n : Nat)
    (hfind : db.findTable? ⟨none, table⟩ = some (kind, t))
    (htargets : writeTargets? t (some listed) = some targets)
    (hlength : targets.length = listed.length)
    (htriggers : db.triggersResolve kind t .insert "new" = true)
    (hparents : findsParents (db.schema kind) t = true)
    (hsound : isSoundParent (db.schema kind) t = true) :
    db.prepareWrite verb ⟨none, table⟩ (some listed) (parameterRows listed n) =
      .ok ⟨kind, t, targets, db.testsAtOnce kind t verb targets n⟩ := by
  have hlengths : (parameterRows listed n).all (·.length = targets.length) = true := by
    simp [parameterRows, placeholders, hlength]
  have hresolve : (parameterRows listed n).all (allResolve (db.place [])) = true := by
    refine List.all_eq_true.2 fun row hrow => ?_
    obtain ⟨i, -, rfl⟩ := List.mem_map.1 hrow
    exact allResolve_parameters _ rfl _
  have hn : (parameterRows listed n).length = n := by simp [parameterRows]
  rw [prepareWrite_eq verb hfind htargets hlengths hresolve htriggers hparents hsound, hn]

/-- What becomes of a write, by how far it went. -/
def endWrite (db : Database) (w : PreparedWrite) : Progress × Option Failure → Outcome
  | (p, none) => db.atEnd w.kind p (.ok [])
  | (p, some (.raised .fail message)) =>
    db.atEnd w.kind
      { p with
        database := p.database.setSchema w.kind
          (restoreCounter (p.database.schema w.kind) w.table.name w.table.counter) }
      (.error (.raised .fail message))
  | (p, some e) => db.unchanged p.lastId (.error e)

theorem endWrite_of_isOfRow {w : PreparedWrite} {p : Progress} {e : Failure}
    (h : isOfRow e = true) : db.endWrite w (p, some e) = db.unchanged p.lastId (.error e) := by
  cases e <;> first | rfl | cases h

theorem run_batch {verb : WriteVerb} {rows : List Fields} {w : PreparedWrite}
    (hw : db.prepareWrite verb ⟨none, table⟩ (some listed) (parameterRows listed rows.length) =
      .ok w)
    (distinct : listed.Nodup) (hnames : ∀ row ∈ rows, row.names = listed) (lastId : Int) :
    db.run lastId (binding (parameters rows))
        (.write verb ⟨none, table⟩ (some listed) (parameterRows listed rows.length)) =
      db.endWrite w (writeRows verb w.atOnce w.kind w.table.name
        (rows.map fun row => newRow w.table w.targets (row.map fun field => boundValue field.2))
        ⟨db, lastId⟩) := by
  rw [run, hw]
  simp only [runWrite, mapM_evalAll_batch db [] distinct hnames, List.map_map, Function.comp_def]
  rfl

/-- Rows that supply no column are written one after the other, each with NULL for its row id. -/
theorem run_withoutColumns {verb : WriteVerb} {n : Nat} {w : PreparedWrite}
    (hw : db.prepareWrite verb ⟨none, table⟩ (some ["rowid"]) (List.replicate n [.literal .null]) =
      .ok w) (lastId : Int) (parameter : String → Value) :
    db.run lastId parameter
        (.write verb ⟨none, table⟩ (some ["rowid"]) (List.replicate n [.literal .null])) =
      db.endWrite w (writeRows verb w.atOnce w.kind w.table.name
        (List.replicate n (newRow w.table w.targets [.null])) ⟨db, lastId⟩) := by
  have hvalues : (List.replicate n [Expr.literal .null]).mapM (evalAll (db.environment parameter []))
      = .ok (List.replicate n [.null]) := by
    rw [mapM_eq_ok (g := fun _ => [.null]) fun e he => ?_, List.map_replicate]
    rw [(List.mem_replicate.1 he).2]
    rfl
  rw [run, hw]
  simp only [runWrite, hvalues, List.map_replicate]
  rfl

end Tablewright.Database
