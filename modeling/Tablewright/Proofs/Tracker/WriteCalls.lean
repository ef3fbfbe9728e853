import Tablewright.Proofs.Tracker.Writes

/-!
# Calls of the functions that write rows

What a call of a function that writes rows of a table comes to (`effect_writeCall`): there is no
statement for a batch without rows or with rows of different columns, and any other batch is a write
of its rows (`Records.writeBatch`).
-/

namespace Tablewright.Tracker

open Sql Database AccessModule Session

variable {verb : WriteVerb} {k : TableName}

/-! ## Names -/

theorem usable_table (k : TableName) : IsUsableName k.table.name := by
  cases k <;> constructor <;> decide

theorem usable_columns (verb : WriteVerb) (k : TableName) :
    ∀ c ∈ columnNames (writeRole verb) k.table, IsUsableName c := by
  unfold IsUsableName
  cases verb <;> cases k <;> decide

theorem nodup_columns (verb : WriteVerb) (k : TableName) :
    (columnNames (writeRole verb) k.table).Nodup := by
  cases verb <;> cases k <;> decide

theorem supplied_rowFields (p : Params (writeRole verb) k.table) :
    Batch.supplied (columnNames (writeRole verb) k.table) (rowFields p) = (rowFields p).names :=
  supplied_boundFields (nodup_columns verb k) p.value

theorem mem_names_rowFields {p : Params (writeRole verb) k.table} {c : String}
    (h : c ∈ (rowFields p).names) : c ∈ columnNames (writeRole verb) k.table :=
  (names_boundFields_sublist _ _ _).subset h

namespace Records

variable (r : Records)

/-! ## Batches that make sense -/

theorem isSome_position (verb : WriteVerb) (k : TableName) :
    ∀ c ∈ columnNames (writeRole verb) k.table, ((r.stored k).position? c).isSome = true := by
  cases k with
  | tasks => cases verb <;> exact of_decide_eq_true rfl
  | changes => cases verb <;> exact of_decide_eq_true rfl
  | completions => cases verb <;> exact of_decide_eq_true rfl

theorem writeTargets?_columns {listed : List String}
    (h : ∀ c ∈ listed, c ∈ columnNames (writeRole verb) k.table) :
    writeTargets? (r.stored k) (some listed) = some (listed.map (r.stored k).position?) := by
  refine mapM_eq_some fun c hc => ?_
  obtain ⟨i, hi⟩ := Option.isSome_iff_exists.1 (r.isSome_position verb k c (h c hc))
  simp only [hi]

theorem prepareWrite_stored (verb : WriteVerb) {columns : List String} {targets : List (Option Nat)}
    (rows : List (List Expr)) (htargets : writeTargets? (r.stored k) (some columns) = some targets)
    (hlengths : rows.all (·.length = targets.length) = true)
    (hresolve : rows.all (allResolve (r.database.place [])) = true) :
    r.database.prepareWrite verb ⟨none, k.table.name⟩ (some columns) rows =
      .ok ⟨.main, r.stored k, targets,
        r.database.testsAtOnce .main (r.stored k) verb targets rows.length⟩ := by
  cases k <;> exact prepareWrite_eq verb rfl htargets hlengths hresolve rfl rfl rfl

/-- Only a single row is tested at once, and no change of status. -/
theorem of_testsAtOnce {targets : List (Option Nat)} {n : Nat}
    (h : r.database.testsAtOnce .main (r.stored k) verb targets n = true) : k ≠ .changes ∧ n = 1 := by
  rw [testsAtOnce, Bool.and_eq_true, Bool.and_eq_true, beq_iff_eq] at h
  refine ⟨?_, h.1.1⟩
  rintro rfl
  exact absurd h.1.2 (by simp; exact of_decide_eq_true rfl)

/-! ## What a batch comes to -/

/-- **What a write of rows comes to**, whether they are tested at once or at the end. -/
theorem ends_writeRows (verb : WriteVerb) {ns : List NewRow} {ms : List Members}
    (hn : List.Forall₂ (fun n m => ∀ r : Records,
      Supplies (r.stored k) n (suppliedValues m k) (suppliedId m k)) ns ms)
    (targets : List (Option Nat)) (last : Int) :
    Ends (r.database.endWrite
        ⟨.main, r.stored k, targets,
          r.database.testsAtOnce .main (r.stored k) verb targets ns.length⟩
        (writeRows verb (r.database.testsAtOnce .main (r.stored k) verb targets ns.length) .main
          k.table.name ns ⟨r.database, last⟩))
      (r.finish (writeEach verb k ms (r, last))) := by
  cases hat : r.database.testsAtOnce .main (r.stored k) verb targets ns.length with
  | false =>
    rw [writeRows_stored verb hn (r, last)]
    exact ends_writeEach verb k ms r last targets false
  | true =>
    obtain ⟨hk, hone⟩ := r.of_testsAtOnce hat
    obtain ⟨n, rfl⟩ := List.length_eq_one_iff.1 hone
    obtain ⟨m, hm, rfl⟩ : ∃ m, (∀ r : Records,
        Supplies (r.stored k) n (suppliedValues m k) (suppliedId m k)) ∧ ms = [m] := by
      obtain ⟨m, ms', hm, hrest, rfl⟩ := List.forall₂_cons_left_iff.1 hn
      obtain rfl := List.forall₂_nil_left_iff.1 hrest
      exact ⟨m, hm, rfl⟩
    exact ends_writeSingle verb hk r (hm r) last targets

/-- What a call that writes rows does to the records. -/
def writeBatch (verb : WriteVerb) (k : TableName) (rows : List (Params (writeRole verb) k.table))
    (last : Int) : Records × Except SessionError Int :=
  match Batch.statement verb k.table.name (columnNames (writeRole verb) k.table)
      (rows.map rowFields) with
  | .error e => (r, .error (.batch e))
  | .ok _ =>
    let x := r.finish (writeEach verb k (rows.map (·.value)) (r, last))
    (x.1, x.2.mapError .database)

end Records

open Records

theorem effect_of_ends {operation : SessionM Unit} {s : Session} {o : Outcome}
    {x : Records × Except Failure Int} (h : Effect operation s (writeResult o) o.database)
    (ho : Ends o x) :
    Effect operation s ((x.2.mapError .database).map fun _ => ()) x.1.database := by
  obtain ⟨r', result⟩ := x
  cases result with
  | ok last =>
    cases ho
    exact h
  | error e =>
    obtain ⟨hdatabase, hresult⟩ := ho
    rw [writeResult, hresult, hdatabase] at h
    exact h

variable {r : Records} {s : Session}

/-- The rows of a batch as they are supplied. -/
theorem forall₂_supplies (rows : List (Params (writeRole verb) k.table)) (t : Records) :
    List.Forall₂ (fun n m => ∀ r : Records,
      Supplies (r.stored k) n (suppliedValues m k) (suppliedId m k))
      (rows.map fun p => suppliedRow (t.stored k) (rowFields p)) (rows.map (·.value)) := by
  rw [List.forall₂_map_left_iff, List.forall₂_map_right_iff, List.forall₂_same]
  intro p _ r
  rw [t.suppliedRow_stored k r]
  exact r.supplies_params p

/-- A batch whose rows supply some columns. -/
theorem ends_run_batch {rows : List (Params (writeRole verb) k.table)} {listed : List String}
    (hlisted : ∀ p ∈ rows, (rowFields p).names = listed) (hsome : rows ≠ []) (last : Int) :
    Ends (r.database.run last (binding (Batch.parameters (rows.map rowFields)))
        (.write verb ⟨none, k.table.name⟩ (some listed)
          (Batch.parameterRows listed (rows.map rowFields).length)))
      (r.finish (writeEach verb k (rows.map (·.value)) (r, last))) := by
  obtain ⟨first, hfirst⟩ := List.exists_mem_of_ne_nil rows hsome
  have hcolumns : ∀ c ∈ listed, c ∈ columnNames (writeRole verb) k.table := by
    rw [← hlisted first hfirst]
    exact fun c hc => mem_names_rowFields hc
  have hdistinct : listed.Nodup := by
    rw [← hlisted first hfirst]
    exact (names_boundFields_sublist _ _ _).nodup (nodup_columns verb k)
  have hnames : ∀ row ∈ rows.map rowFields, row.names = listed := by
    intro row hrow
    obtain ⟨p, hp, rfl⟩ := List.mem_map.1 hrow
    exact hlisted p hp
  have hw := r.prepareWrite_stored verb
    (Batch.parameterRows listed (rows.map rowFields).length) (r.writeTargets?_columns hcolumns)
    (by simp [Batch.parameterRows, Batch.placeholders]) ?_
  · rw [run_batch hw hdistinct hnames, name_stored]
    have hrows : (rows.map rowFields).map (fun row => newRow (r.stored k)
        (listed.map (r.stored k).position?) (row.map fun field => boundValue field.2)) =
          rows.map fun p => suppliedRow (r.stored k) (rowFields p) := by
      rw [List.map_map]
      refine List.map_congr_left fun p hp => ?_
      rw [Function.comp_apply, suppliedRow, hlisted p hp]
    have hends := r.ends_writeRows verb (forall₂_supplies rows r)
      (listed.map (r.stored k).position?) last
    rw [hrows]
    simpa [Batch.parameterRows] using hends
  · refine List.all_eq_true.2 fun row hrow => ?_
    obtain ⟨i, -, rfl⟩ := List.mem_map.1 hrow
    exact allResolve_parameters _ rfl _

/-- A batch whose rows supply no column. -/
theorem ends_run_withoutColumns {rows : List (Params (writeRole verb) k.table)}
    (hlisted : ∀ p ∈ rows, (rowFields p).names = []) (hsome : rows ≠ []) (last : Int) :
    Ends (r.database.run last (binding []) (.write verb ⟨none, k.table.name⟩ (some ["rowid"])
        (List.replicate (rows.map rowFields).length [.literal .null])))
      (r.finish (writeEach verb k (rows.map (·.value)) (r, last))) := by
  have htargets : writeTargets? (r.stored k) (some ["rowid"]) = some [none] := by
    cases k <;> rfl
  have hw := r.prepareWrite_stored verb
    (List.replicate (rows.map rowFields).length [.literal .null]) htargets (by simp)
    (List.all_eq_true.2 fun row hrow => by rw [(List.mem_replicate.1 hrow).2]; rfl)
  have hnull : ∀ p ∈ rows, ∀ r : Records, Supplies (r.stored k) (newRow (r.stored k) [none] [.null])
      (suppliedValues p.value k) (suppliedId p.value k) := by
    intro p hp r
    have hsupplies := r.supplies_params p
    have hfields : rowFields p = [] := List.map_eq_nil_iff.1 (hlisted p hp)
    rw [hfields] at hsupplies
    cases k <;> exact hsupplies
  rw [run_withoutColumns hw, name_stored]
  have hforall : List.Forall₂ (fun n m => ∀ r : Records,
      Supplies (r.stored k) n (suppliedValues m k) (suppliedId m k))
      (List.replicate (rows.map rowFields).length (newRow (r.stored k) [none] [.null]))
      (rows.map (·.value)) := by
    rw [List.length_map, ← List.map_const', List.forall₂_map_left_iff, List.forall₂_map_right_iff,
      List.forall₂_same]
    intro p hp r'
    have hsame : newRow (r.stored k) [none] [.null] = newRow (r'.stored k) [none] [.null] := by
      cases k <;> rfl
    rw [hsame]
    exact hnull p hp r'
  have hends := r.ends_writeRows verb hforall [none] last
  simpa using hends

/-- **The statement of a batch** comes to the write of its rows. -/
theorem ends_runQuery {rows : List (Params (writeRole verb) k.table)} {text : String}
    {parameters : Parameters}
    (h : Batch.statement verb k.table.name (columnNames (writeRole verb) k.table)
      (rows.map rowFields) = .ok (text, parameters)) (last : Int) :
    Ends (r.database.runQuery last text parameters)
      (r.finish (writeEach verb k (rows.map (·.value)) (r, last))) := by
  obtain ⟨hsome, listed, hlisted⟩ := Batch.exists_supplied_of_statement h
  have hrows : rows ≠ [] := by simpa using hsome
  have hnames : ∀ p ∈ rows, (rowFields p).names = listed := fun p hp =>
    (supplied_rowFields p).symm.trans (hlisted _ (List.mem_map.2 ⟨p, hp, rfl⟩))
  by_cases hnone : listed = []
  · subst hnone
    obtain ⟨text', htext, hrun⟩ := Batch.runQuery_withoutColumns verb (usable_table k) hsome hlisted
    cases h.symm.trans htext
    rw [hrun]
    exact ends_run_withoutColumns hnames hrows last
  · obtain ⟨first, hfirst⟩ := List.exists_mem_of_ne_nil rows hrows
    have husable : ∀ c ∈ listed, IsUsableName c := by
      rw [← hnames first hfirst]
      exact fun c hc => usable_columns verb k c (mem_names_rowFields hc)
    have hdistinct : listed.Nodup := by
      rw [← hnames first hfirst]
      exact (names_boundFields_sublist _ _ _).nodup (nodup_columns verb k)
    have hall : ∀ row ∈ rows.map rowFields, row.names = listed := by
      intro row hrow
      obtain ⟨p, hp, rfl⟩ := List.mem_map.1 hrow
      exact hnames p hp
    obtain ⟨text', htext, hrun⟩ := Batch.runQuery_batch verb (usable_table k) husable hnone
      hdistinct hsome hall hlisted
    cases h.symm.trans htext
    rw [hrun]
    exact ends_run_batch hnames hrows last

/-- **What a call that writes rows comes to.** -/
theorem effect_writeCall (hs : s.database = r.database)
    (rows : List (Params (writeRole verb) k.table)) :
    Effect (writeCall verb k rows) s
      ((r.writeBatch verb k rows s.lastId).2.map fun _ => ())
      (r.writeBatch verb k rows s.lastId).1.database := by
  rw [writeCall_eq, writeBatch]
  cases hstatement : Batch.statement verb k.table.name (columnNames (writeRole verb) k.table)
      (rows.map rowFields) with
  | error e =>
    rw [← hs]
    exact effect_write_of_error hstatement s
  | ok t =>
    have heffect := effect_write hstatement s
    rw [hs] at heffect
    exact effect_of_ends heffect (ends_runQuery hstatement s.lastId)

/-- The row id that a call writes last. -/
theorem lastId_writeCall (hs : s.database = r.database)
    {rows : List (Params (writeRole verb) k.table)} {last : Int}
    (h : (r.writeBatch verb k rows s.lastId).2 = .ok last) :
    (leftBy (writeCall verb k rows) s).lastId = last := by
  rw [writeBatch] at h
  rw [writeCall_eq]
  cases hstatement : Batch.statement verb k.table.name (columnNames (writeRole verb) k.table)
      (rows.map rowFields) with
  | error e =>
    rw [hstatement] at h
    cases h
  | ok t =>
    rw [hstatement] at h
    have hends := ends_runQuery (r := r) hstatement s.lastId
    generalize hx : r.finish (writeEach verb k (rows.map (·.value)) (r, s.lastId)) = x at h hends
    obtain ⟨r', result⟩ := x
    cases result with
    | error e => cases h
    | ok last' =>
      cases h
      rw [lastId_leftBy_write hstatement s, hs]
      exact congrArg Outcome.lastId hends

/-! ## Batches of one row -/

/-- Write one row, which has to refer to a task. -/
def Records.writeOne (r : Records) (verb : WriteVerb) (k : TableName) (m : Members) :
    Except Failure (Records × Int) := do
  let x ← r.write verb k m
  if x.1.refersToTasks then return x
  throw .foreignKey

/-- The records after a write that may fail. -/
def Records.after (r : Records) : Except Failure (Records × Int) → Records
  | .ok x => x.1
  | .error _ => r

theorem writeBatch_singleton (h : r.refersToTasks = true) (p : Params (writeRole verb) k.table)
    (last : Int) : r.writeBatch verb k [p] last =
      (r.after (r.writeOne verb k p.value),
        ((r.writeOne verb k p.value).map (·.2)).mapError .database) := by
  obtain ⟨text, htext⟩ : ∃ text, Batch.statement verb k.table.name
      (columnNames (writeRole verb) k.table) ([p].map rowFields) = .ok text := by
    rw [List.map_singleton, Batch.statement_cons]
    simp only [Batch.checkRows, Except.bind]
    split <;> exact ⟨_, rfl⟩
  rw [writeBatch, htext]
  simp only [List.map_singleton, writeEach, writeOne]
  cases hwrite : r.write verb k p.value with
  | ok x =>
    simp only [finish, ok_bind]
    cases x.1.refersToTasks <;> rfl
  | error e =>
    simp only [finish, h, if_true]
    cases isOfRow e <;> rfl

/-- **What a call that writes one row comes to.** -/
theorem effect_writeOne (hs : s.database = r.database) (h : r.refersToTasks = true)
    (p : Params (writeRole verb) k.table) :
    Effect (writeCall verb k [p]) s
      (((r.writeOne verb k p.value).map fun _ => ()).mapError .database)
      (r.after (r.writeOne verb k p.value)).database := by
  have heffect := effect_writeCall hs [p]
  rw [writeBatch_singleton h] at heffect
  cases hone : r.writeOne verb k p.value <;> rw [hone] at heffect <;> exact heffect

end Tablewright.Tracker
