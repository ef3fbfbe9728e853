import Tablewright.Proofs.FallibleSteps
import Tablewright.Proofs.Statement.Reading

/-!
# What a batch writes

The write that a batch is read back as has a parameter for every field of every row, and nothing
else is bound (`mem_statementParameters`). Evaluated, its tuples are the values of the rows, each
in its place (`mapM_evalAll_batch`), so that a batch is run as a write of these values
(`runQuery_batch`).
-/

namespace Tablewright

open Sql Database

/-! ## Parameters -/

theorem binding_eq {parameters : Parameters} (distinct : (parameters.map (·.1)).Nodup)
    {name : String} {v : Value} (h : (name, v) ∈ parameters) :
    binding parameters (":" ++ name) = boundValue v := by
  rw [binding]
  cases hf : parameters.reverse.find? fun p => ":" ++ p.1 == ":" ++ name with
  | none =>
    rw [List.find?_eq_none] at hf
    have := hf (name, v) (by simpa using h)
    simp at this
  | some p =>
    have hp : p ∈ parameters := by simpa using List.mem_of_find?_eq_some hf
    have hname : p.1 = name := by
      have := List.find?_some hf
      simpa [String.append_right_inj] using this
    obtain rfl : p = (name, v) := List.inj_on_of_nodup_map distinct hp h hname
    rfl

theorem evalAll_parameters (env : Environment) (names : List String) :
    evalAll env (names.map .parameter) = .ok (names.map env.parameter) := by
  induction names with
  | nil => rfl
  | cons p rest ih => simp [evalAll, Expr.eval, ih, bind, Except.bind, pure, Except.pure]

theorem allParameters_map_parameter (names : List String) :
    allParameters (names.map .parameter) = names := by
  induction names with
  | nil => rfl
  | cons p rest ih => simp [allParameters, Expr.parameters, ih]

namespace Batch

/-- The tuples of the write for `n` rows. -/
def parameterRows (listed : List String) (n : Nat) : List (List Expr) :=
  (List.range n).map fun i => (placeholders listed i).map .parameter

variable {listed : List String} {rows : List Fields}

theorem mem_statementParameters (verb : WriteVerb) (table : String)
    (hnames : ∀ row ∈ rows, row.names = listed) {p : String × Value} (hp : p ∈ parameters rows) :
    ":" ++ p.1 ∈ statementParameters
      (.write verb ⟨none, table⟩ (some listed) (parameterRows listed rows.length)) := by
  obtain ⟨i, row, hi, field, hfield, rfl⟩ := mem_parameters.1 hp
  obtain ⟨hlt, rfl⟩ := List.getElem?_eq_some_iff.1 hi
  have hcolumn : field.1 ∈ listed := by
    rw [← hnames _ (List.getElem_mem hlt)]
    exact List.mem_map.2 ⟨field, hfield, rfl⟩
  simp only [statementParameters, parameterRows, List.mem_flatMap, List.mem_map, List.mem_range]
  refine ⟨_, ⟨i, hlt, rfl⟩, ?_⟩
  rw [allParameters_map_parameter]
  exact List.mem_map.2 ⟨field.1, hcolumn, rfl⟩

/-- Every tuple evaluates to the values of its row. -/
theorem mapM_evalAll_batch (db : Database) (scopes : Scopes) (distinct : listed.Nodup)
    (hnames : ∀ row ∈ rows, row.names = listed) :
    (parameterRows listed rows.length).mapM
        (evalAll (db.environment (binding (parameters rows)) scopes)) =
      .ok (rows.map fun row => row.map fun field => boundValue field.2) := by
  have hnodup : ((parameters rows).map (·.1)).Nodup :=
    nodup_parameters fun row h => (hnames row h).symm ▸ distinct
  have heval : ∀ i, evalAll (db.environment (binding (parameters rows)) scopes)
      ((placeholders listed i).map .parameter) =
        pure ((placeholders listed i).map (binding (parameters rows))) :=
    fun i => evalAll_parameters _ _
  rw [parameterRows, List.mapM_map]
  simp only [Function.comp_def, heval, List.mapM_pure]
  refine congrArg _ (List.ext_getElem (by simp) fun i h₁ h₂ => ?_)
  have hi : i < rows.length := by simpa using h₁
  have hrow := hnames _ (List.getElem_mem hi)
  rw [List.getElem_map, List.getElem_map, List.getElem_range, placeholders, ← hrow, Fields.names,
    List.map_map, List.map_map]
  refine List.map_congr_left fun field hfield => ?_
  exact binding_eq hnodup (mem_parameters.2 ⟨i, _, List.getElem?_eq_getElem hi, field, hfield, rfl⟩)

/-- The statement of a batch is the one that is written for its number of rows. -/
theorem statement_eq_written (verb : WriteVerb) (table : String) {columns : List String}
    {first : Fields} {rest : List Fields} (fits : ∀ row ∈ first :: rest, row.FitsInto columns)
    (same : ∀ row ∈ rest, first.SameColumns row) (hne : supplied columns first ≠ []) :
    statement verb table columns (first :: rest) =
      .ok (writtenStatement verb table (supplied columns first) (first :: rest).length,
        parameters (first :: rest)) := by
  have hfirst := fits first (by simp)
  have hrest : ∀ row ∈ rest, row.FitsInto columns := fun row h => fits row (by simp [h])
  have same' : ∀ row ∈ first :: rest, first.SameColumns row := by
    intro row h
    rcases List.mem_cons.1 h with rfl | h
    · exact fun _ => Iff.rfl
    · exact same row h
  have hrange : ((first :: rest).mapIdx fun i _ => "(" ++
      commaSeparated ((supplied columns first).map fun c => ":" ++ parameterName i c) ++ ")") =
      (List.range (first :: rest).length).map (writtenTuple (supplied columns first)) := by
    refine List.ext_getElem (by simp) fun i _ _ => ?_
    simp only [List.getElem_mapIdx, List.getElem_map, List.getElem_range, writtenTuple,
      placeholders]
  rw [statement_eq_ok verb hfirst hrest same hne, tuples_eq hfirst fits same', writtenStatement,
    hrange]

/-- **A batch is run as the write of its values**, if all of its rows have the same columns in the
order of the table. -/
theorem runQuery_batch (verb : WriteVerb) {table : String} {columns : List String}
    (htable : IsUsableName table) (hl : ∀ c ∈ listed, IsUsableName c) (hne : listed ≠ [])
    (distinct : listed.Nodup) (hsome : rows ≠ []) (hnames : ∀ row ∈ rows, row.names = listed)
    (hsupplied : ∀ row ∈ rows, supplied columns row = listed) :
    ∃ text, statement verb table columns rows = .ok (text, parameters rows) ∧
      ∀ (db : Database) (lastId : Int), db.runQuery lastId text (parameters rows) =
        db.run lastId (binding (parameters rows))
          (.write verb ⟨none, table⟩ (some listed) (parameterRows listed rows.length)) := by
  obtain ⟨first, rest, rfl⟩ := List.exists_cons_of_ne_nil hsome
  have fits : ∀ row ∈ first :: rest, row.FitsInto columns := by
    intro row hrow
    refine ⟨(hnames row hrow).symm ▸ distinct, fun c hc => ?_⟩
    rw [hnames row hrow, ← hsupplied row hrow] at hc
    exact (mem_supplied.1 hc).1
  have hfirst := fits first (by simp)
  have same : ∀ row ∈ first :: rest, first.SameColumns row := by
    intro row hrow
    rw [← supplied_eq_iff hfirst (fits row hrow), hsupplied first (by simp), hsupplied row hrow]
  have hsup := hsupplied first (by simp)
  have htext := statement_eq_written verb table fits (fun row h => same row (by simp [h]))
    (by rwa [hsup])
  rw [hsup] at htext
  refine ⟨_, htext, fun db lastId => ?_⟩
  exact runQuery_eq_run (isStatement_writtenStatement verb htable hl hne (by simp)) db lastId
    fun p hp => mem_statementParameters verb table hnames hp

theorem checkRows_eq_ok_of_supplied {table : String} {columns expected : List String} (start : Nat)
    (h : ∀ row ∈ rows, supplied columns row = expected) :
    checkRows table columns expected start rows = .ok () := by
  induction rows generalizing start with
  | nil => rfl
  | cons row rest ih =>
    rw [checkRows, if_pos (h row (by simp))]
    exact ih (start + 1) fun r hr => h r (List.mem_cons_of_mem row hr)

/-- **A batch of rows that supply no column** is run as a write of NULL to their row ids. -/
theorem runQuery_withoutColumns (verb : WriteVerb) {table : String} {columns : List String}
    (htable : IsUsableName table) (hsome : rows ≠ [])
    (hsupplied : ∀ row ∈ rows, supplied columns row = []) :
    ∃ text, statement verb table columns rows = .ok (text, []) ∧
      ∀ (db : Database) (lastId : Int), db.runQuery lastId text [] =
        db.run lastId (binding []) (.write verb ⟨none, table⟩ (some ["rowid"])
          (List.replicate rows.length [.literal .null])) := by
  obtain ⟨first, rest, rfl⟩ := List.exists_cons_of_ne_nil hsome
  have hfirst := hsupplied first (by simp)
  have htext : statement verb table columns (first :: rest) =
      .ok (writtenWithoutColumns verb table (first :: rest).length, []) := by
    rw [statement_cons, hfirst,
      checkRows_eq_ok_of_supplied 1 fun row h => hsupplied row (List.mem_cons_of_mem first h),
      List.map_const']
    rfl
  refine ⟨_, htext, fun db lastId => ?_⟩
  exact runQuery_eq_run (isStatement_writtenWithoutColumns verb htable (by simp)) db lastId
    fun p hp => absurd hp (List.not_mem_nil)

theorem supplied_of_checkRows {table : String} {columns expected : List String} {start : Nat}
    (h : checkRows table columns expected start rows = .ok ()) :
    ∀ row ∈ rows, supplied columns row = expected := by
  induction rows generalizing start with
  | nil => simp
  | cons row rest ih =>
    rw [checkRows] at h
    split at h
    · rename_i hrow
      intro r hr
      rcases List.mem_cons.1 hr with rfl | hr
      · exact hrow
      · exact ih h r hr
    · cases h

/-- In a batch that has a statement, all rows supply the same columns. -/
theorem exists_supplied_of_statement {verb : WriteVerb} {table : String} {columns : List String}
    {text : String × Parameters} (h : statement verb table columns rows = .ok text) :
    rows ≠ [] ∧ ∃ listed, ∀ row ∈ rows, supplied columns row = listed := by
  cases rows with
  | nil => cases h
  | cons first rest =>
    refine ⟨by simp, supplied columns first, fun row hrow => ?_⟩
    rw [statement_cons] at h
    obtain ⟨_, hcheck, -⟩ := exists_of_bind_eq_ok h
    rcases List.mem_cons.1 hrow with rfl | hrow
    · rfl
    · exact supplied_of_checkRows hcheck row hrow

end Batch

end Tablewright
