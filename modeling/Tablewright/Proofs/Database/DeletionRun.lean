import Tablewright.Proofs.Database.OneStatement
import Tablewright.Proofs.Database.Rows
import Tablewright.Proofs.Sql.Evaluation
import Tablewright.Proofs.Statement.Binding
import Tablewright.Proofs.Statement.Deletion

/-!
# Running a deletion

A deletion of the rows that meet equations makes sense in a database if its table is there with the
columns of the equations and everything that belongs to the table makes sense
(`prepareDelete_conjunction`). The rows that meet the equations are then deleted one after the other
(`runQuery_deletion`).
-/

namespace Tablewright

open Sql Grammar Database

/-! ## Columns under their names -/

/-- The names mean columns of the table, each the one of exactly this name. -/
def StoredTable.HasColumns (t : StoredTable) (names : List String) : Prop :=
  ∀ n ∈ names, ∃ i c, t.position? n = some i ∧ t.columns[i]? = some c ∧ c.name = n

theorem hasColumns_of_nodup {t : StoredTable}
    (h : (t.columns.map fun c => Text.lowerAscii c.name).Nodup) :
    t.HasColumns (t.columns.map (·.name)) := by
  intro n hn
  obtain ⟨c, hc, rfl⟩ := List.mem_map.1 hn
  obtain ⟨i, hi, rfl⟩ := List.mem_iff_getElem.1 hc
  refine ⟨i, _, ?_, List.getElem?_eq_getElem hi, rfl⟩
  rw [StoredTable.position?, List.findIdx?_eq_some_iff_getElem]
  refine ⟨hi, Text.sameName_refl _, fun j hj hsame => ?_⟩
  have hkeys := List.pairwise_iff_getElem.1 h j i (by simp; omega) (by simpa using hi) hj
  simp only [List.getElem_map] at hkeys
  exact hkeys (Text.sameName_iff.1 hsame)

variable {db : Database} {kind : SchemaKind} {t : StoredTable} {table : String}

/-! ## Conjunctions of equations -/

theorem parameters_conjoin (e : Expr) (columns : List String) :
    (conjoin e columns).parameters = e.parameters ++ columns.map (":" ++ ·) := by
  induction columns generalizing e with
  | nil => simp [conjoin]
  | cons c rest ih =>
    have hcons : conjoin e (c :: rest) = conjoin (.binary .and e (equation c)) rest := rfl
    rw [hcons, ih]
    simp [Expr.parameters, equation]

/-- The placeholders of a conjunction of equations, in order. -/
theorem parameters_conjunction {columns : List String} :
    (conjunction columns).parameters = columns.map (":" ++ ·) := by
  cases columns with
  | nil => rfl
  | cons c rest =>
    rw [conjunction, parameters_conjoin]
    simp [Expr.parameters, equation]

theorem findName?_of_position? {n : String} {i : Nat} (h : t.position? n = some i) :
    (findName? none n [[t.nullFrame]]).isSome = true := by
  obtain ⟨hlt, hsame, -⟩ := List.findIdx?_eq_some_iff_getElem.1 h
  have hcolumn : (t.nullFrame.column? n).isSome = true := by
    rw [Frame.column?, Option.isSome_map, List.find?_isSome]
    refine ⟨((t.columns[i].name, t.columns[i].affinity), .null), ?_, hsame⟩
    simp only [StoredTable.nullFrame, List.zip_map', List.mem_map]
    exact ⟨t.columns[i], List.getElem_mem hlt, rfl⟩
  obtain ⟨cell, hcell⟩ := Option.isSome_iff_exists.1 hcolumn
  have hscope : searchScope [t.nullFrame] none n = .one cell := by
    have heligible : [t.nullFrame].filter (·.answersTo none) = [t.nullFrame] := rfl
    have hcells : [t.nullFrame].filterMap (·.column? n) = [cell] := by simp [hcell]
    simp only [searchScope, heligible, hcells, onlyCell]
  rw [findName?, hscope]
  rfl

theorem resolves_conjoin {p : Place} {e : Expr} {columns : List String}
    (he : e.resolves p = true) (h : ∀ c ∈ columns, (equation c).resolves p = true) :
    (conjoin e columns).resolves p = true := by
  induction columns generalizing e with
  | nil => exact he
  | cons c rest ih =>
    refine ih (e := .binary .and e (equation c)) ?_ fun d hd => h d (List.mem_cons_of_mem c hd)
    rw [Expr.resolves, he, h c (by simp)]
    rfl

/-- Equations between columns of a table and parameters make sense. -/
theorem resolves_conjunction {columns : List String} (h : t.HasColumns columns) :
    (conjunction columns).resolves (db.place [[t.nullFrame]]) = true := by
  have hequation : ∀ c ∈ columns, (equation c).resolves (db.place [[t.nullFrame]]) = true := by
    intro c hc
    obtain ⟨i, -, hi, -, -⟩ := h c hc
    simp [equation, Expr.resolves, place, findName?_of_position? hi]
  cases columns with
  | nil => rfl
  | cons c rest =>
    exact resolves_conjoin (hequation c (by simp)) fun d hd =>
      hequation d (List.mem_cons_of_mem c hd)

/-- A deletion makes sense if its table, the triggers on it and its foreign keys do. -/
theorem prepareDelete_conjunction {columns : List String}
    (hfind : db.findTable? ⟨none, table⟩ = some (kind, t)) (hcolumns : t.HasColumns columns)
    (htriggers : db.triggersResolve kind t .delete "old" = true)
    (hparents : findsParents (db.schema kind) t = true)
    (hsound : isSoundParent (db.schema kind) t = true) :
    db.prepareDelete ⟨none, table⟩ (conjunction columns) = .ok (kind, t) := by
  simp [prepareDelete, required, hfind, ok_bind, resolves_conjunction hcolumns, htriggers,
    hparents, hsound]
  rfl

theorem prepare_deletion {columns : List String}
    (hfind : db.findTable? ⟨none, table⟩ = some (kind, t)) (hcolumns : t.HasColumns columns)
    (htriggers : db.triggersResolve kind t .delete "old" = true)
    (hparents : findsParents (db.schema kind) t = true)
    (hsound : isSoundParent (db.schema kind) t = true) :
    db.prepare (.delete ⟨none, table⟩ (conjunction columns)) = .ok () := by
  rw [prepare, prepareDelete_conjunction hfind hcolumns htriggers hparents hsound]
  rfl

/-! ## What a deletion comes to -/

section Meets

variable {env : Environment} {columns : List String} {b : String → Bool}

theorem exists_hasTruth_conjoin {e : Expr} {o : Option Bool} (he : e.HasTruth env o)
    (h : ∀ c ∈ columns, ∃ o, (equation c).HasTruth env o ∧ (o == some true) = b c) :
    ∃ o', (conjoin e columns).HasTruth env o' ∧
      (o' == some true) = ((o == some true) && columns.all b) := by
  induction columns generalizing e o with
  | nil => exact ⟨o, he, by simp⟩
  | cons c rest ih =>
    obtain ⟨oc, hc, hbc⟩ := h c (by simp)
    obtain ⟨o', ho', hb⟩ := ih (he.and hc) fun d hd => h d (List.mem_cons_of_mem c hd)
    refine ⟨o', ho', hb.trans ?_⟩
    rw [Truth.and_beq_true, hbc, List.all_cons, Bool.and_assoc]

/-- A conjunction of equations holds if all of them are true. -/
theorem meets_conjunction (hne : columns ≠ [])
    (h : ∀ c ∈ columns, ∃ o, (equation c).HasTruth env o ∧ (o == some true) = b c) :
    (conjunction columns).Meets env (columns.all b) := by
  obtain ⟨c, rest, rfl⟩ := List.exists_cons_of_ne_nil hne
  obtain ⟨oc, hc, hbc⟩ := h c (by simp)
  obtain ⟨o, ho, hb⟩ := exists_hasTruth_conjoin hc fun d hd => h d (List.mem_cons_of_mem c hd)
  have hmeets := ho.meets
  rwa [hb, hbc] at hmeets

end Meets

/-- **A deletion deletes the rows that meet its equations**, one after the other. -/
theorem runQuery_deletion {fields : Fields} {p : Row → Bool} {q : Progress} {lastId : Int}
    (htable : IsUsableName table) (hne : fields ≠ []) (hc : ∀ c ∈ fields.names, IsColumnWord c)
    (hprepare : db.prepareDelete ⟨none, table⟩ (conjunction fields.names) = .ok (kind, t))
    (hmeets : ∀ row ∈ t.rows, (conjunction fields.names).Meets
      (db.environment (binding fields.named) [[t.frame row]]) (p row))
    (hdelete : deleteEach kind t.name (t.rows.filter p) ⟨db, lastId⟩ = (q, none)) :
    db.runQuery lastId (Filter.deletion table fields) fields.named =
      db.atEnd kind q (.ok []) := by
  have hbound : ∀ f ∈ fields.named, ":" ++ f.1 ∈
      statementParameters (.delete ⟨none, table⟩ (conjunction fields.names)) := by
    intro f hf
    rw [statementParameters, parameters_conjunction]
    exact List.mem_map.2 ⟨f.1, List.mem_map.2 ⟨f, hf, rfl⟩, rfl⟩
  rw [runQuery_eq_run (Filter.isStatement_deletion htable hne hc) db lastId hbound, run, hprepare]
  simp only [runDelete, filterM_eq_ok hmeets, hdelete]

end Tablewright
