import Tablewright.Proofs.Database.DeletionRun
import Tablewright.Proofs.Tracker.WriteCalls

/-!
# Deleting rows through the generated functions

What the functions that delete rows of the tables come to (`effect_deleteCall`), for any filter: the
rows whose values are equal to all members of the filter go, and what refers to a task goes with it
(`Records.without`). A filter without members makes no statement.
-/

namespace Tablewright.Tracker

open Sql Database AccessModule Session Grammar

/-- Delete rows by the function that is generated for a table. -/
def deleteCall (k : TableName) (filter : Params .delete k.table) : SessionM Unit :=
  AccessModule.deleteRows k.table filter.value

/-- The fields of a filter. -/
def filterFields {k : TableName} (p : Params .delete k.table) : Fields :=
  boundFields .delete k.table p.value

namespace TableName

/-- The value of a row in a column of the table. -/
def valueIn (k : TableName) (row : Row) (column : String) : Value :=
  (((columnNames .delete k.table).zip row.values).lookup column).getD .null

/-- Whether a row has the value of each member that is there. -/
def selects (k : TableName) (m : Members) (row : Row) : Bool :=
  (columnNames .delete k.table).all fun c => (m c).all (· == k.valueIn row c)

end TableName

variable {k : TableName}

theorem mem_names_filterFields {p : Params .delete k.table} {c : String} :
    c ∈ (filterFields p).names ↔ c ∈ columnNames .delete k.table ∧ (p.value c).isSome = true := by
  have hnames : (filterFields p).names =
      (columnNames .delete k.table).filter fun c => (p.value c).isSome := by
    rw [filterFields, names_boundFields, columnNames, List.filter_map]
    refine congrArg _ (List.filter_congr fun m hm => ?_)
    obtain ⟨c, -, rfl⟩ := List.mem_map.1 hm
    rfl
  rw [hnames, List.mem_filter]

theorem filterFields_eq_nil {p : Params .delete k.table} :
    filterFields p = [] ↔ ∀ c, p.value c = none := by
  constructor
  · intro h c
    by_cases hc : c ∈ columnNames .delete k.table
    · by_contra hsome
      have : c ∈ (filterFields p).names :=
        mem_names_filterFields.2 ⟨hc, Option.isSome_iff_ne_none.2 hsome⟩
      rw [h] at this
      cases this
    · exact p.fits.others c hc
  · intro h
    have hnames : (filterFields p).names = [] := List.eq_nil_iff_forall_not_mem.2 fun c hc => ?_
    · exact List.map_eq_nil_iff.1 hnames
    have := (mem_names_filterFields.1 hc).2
    rw [h c] at this
    cases this

namespace Records

variable (r : Records)

/-! ## Deleting rows -/

/-- The records without some rows of a table and what refers to them. -/
def without (k : TableName) (gone : Row → Bool) : Records :=
  match k with
  | .tasks => r.withoutTasks (gone ·.row)
  | .changes => r.withoutChanges (gone ·.row)
  | .completions => r.withoutCompletions (gone ·.row)

variable {r} {p q : Row → Bool}

theorem hasTask_of_sublist {a b : Records} {id : Int} (h : a.tasks.Sublist b.tasks)
    (hid : a.hasTask id = true) : b.hasTask id = true := by
  obtain ⟨t, ht, rfl⟩ := a.hasTask_iff.1 hid
  exact b.hasTask_iff.2 ⟨t, h.subset ht, rfl⟩

/-- Deleting nothing. -/
theorem without_of_forall (h : ∀ row ∈ (r.stored k).rows, p row = false) : r.without k p = r := by
  have hfilter : ∀ {α : Type} {f : α → Row} {l : List α}, (∀ row ∈ l.map f, p row = false) →
      l.filter (fun a => !p (f a)) = l := by
    intro α f l hl
    refine List.filter_eq_self.2 fun a ha => ?_
    rw [hl (f a) (List.mem_map.2 ⟨a, ha, rfl⟩)]
    rfl
  cases k with
  | tasks =>
    have hsame : r.keeps r = fun _ => true := funext fun task => r.keeps_of_tasks_eq rfl task
    rw [without, withoutTasks, hfilter h, withoutLost, hsame, List.filter_true, List.filter_true]
  | changes => rw [without, withoutChanges, hfilter h]
  | completions => rw [without, withoutCompletions, hfilter h]

theorem without_congr (h : ∀ row ∈ (r.stored k).rows, p row = q row) :
    r.without k p = r.without k q := by
  have hfilter : ∀ {α : Type} {f : α → Row} {l : List α}, (∀ row ∈ l.map f, p row = q row) →
      l.filter (fun a => !p (f a)) = l.filter fun a => !q (f a) := by
    intro α f l hl
    refine List.filter_congr fun a ha => ?_
    rw [hl (f a) (List.mem_map.2 ⟨a, ha, rfl⟩)]
  cases k with
  | tasks => rw [without, without, withoutTasks, withoutTasks, hfilter h]
  | changes => rw [without, without, withoutChanges, withoutChanges, hfilter h]
  | completions => rw [without, without, withoutCompletions, withoutCompletions, hfilter h]

/-- Rows that stay when tasks are deleted and then others. -/
theorem keeps_trans {a b : Records} {task : Int} (hab : a.hasTask task = true → b.hasTask task = true)
    (hbr : b.hasTask task = true → r.hasTask task = true) :
    (a.keeps b task && b.keeps r task) = a.keeps r task := by
  simp only [keeps]
  revert hab hbr
  cases a.hasTask task <;> cases b.hasTask task <;> cases r.hasTask task <;> simp

/-- Deleting rows and then others. -/
theorem without_without : (r.without k p).without k q = r.without k fun row => p row || q row := by
  have hor : ∀ {α : Type} (f : α → Row) (l : List α),
      (l.filter fun a => !p (f a)).filter (fun a => !q (f a)) =
        l.filter fun a => !(p (f a) || q (f a)) := by
    intro α f l
    rw [List.filter_filter]
    exact List.filter_congr fun a _ => by rw [Bool.not_or, Bool.and_comm]
  cases k with
  | tasks =>
    have hlost : ∀ {α : Type} (task : α → Int) (l : List α),
        (l.filter fun x => keeps { r with tasks := r.tasks.filter (!p ·.row) } r (task x)).filter
          (fun x => keeps { r with tasks := (r.tasks.filter (!p ·.row)).filter (!q ·.row) }
            { r with tasks := r.tasks.filter (!p ·.row) } (task x)) =
        l.filter fun x =>
          keeps { r with tasks := r.tasks.filter fun t => !(p t.row || q t.row) } r (task x) := by
      intro α task l
      rw [List.filter_filter, ← hor TaskRecord.row r.tasks]
      exact List.filter_congr fun x _ => keeps_trans
        (hasTask_of_sublist List.filter_sublist) (hasTask_of_sublist List.filter_sublist)
    exact (Records.mk.injEq ..).mpr ⟨hor _ _, rfl, hlost _ _, hlost _ _, rfl⟩
  | changes => exact (Records.mk.injEq ..).mpr ⟨rfl, rfl, hor _ _, rfl, rfl⟩
  | completions => exact (Records.mk.injEq ..).mpr ⟨rfl, rfl, rfl, hor _ _, rfl⟩

theorem refersToTasks_without (h : r.refersToTasks = true) :
    (r.without k p).refersToTasks = true := by
  obtain ⟨hchanges, hcompletions⟩ := r.refersToTasks_iff.1 h
  refine (refersToTasks_iff _).2 ?_
  cases k with
  | tasks =>
    have hhas : ∀ task, r.hasTask task = true →
        keeps { r with tasks := r.tasks.filter (!p ·.row) } r task = true →
        (r.without .tasks p).hasTask task = true := by
      intro task htask hkeeps
      rwa [keeps, htask, Bool.not_true, Bool.or_false] at hkeeps
    constructor
    · intro x hx
      obtain ⟨hmem, hkeeps⟩ := List.mem_filter.1 hx
      exact hhas _ (hchanges x hmem) hkeeps
    · intro x hx
      obtain ⟨hmem, hkeeps⟩ := List.mem_filter.1 hx
      exact hhas _ (hcompletions x hmem) hkeeps
  | changes => exact ⟨fun x hx => hchanges x (List.mem_filter.1 hx).1, hcompletions⟩
  | completions => exact ⟨hchanges, fun x hx => hcompletions x (List.mem_filter.1 hx).1⟩

/-! ## What the database does -/

theorem deleteRows_stored (k : TableName) (p : Row → Bool) :
    Database.deleteRows r.main (r.stored k) p = .ok (r.without k p).main := by
  cases k with
  | tasks => exact r.deleteRows_task fun _ _ => rfl
  | changes => exact r.deleteRows_change fun _ _ => rfl
  | completions => exact r.deleteRows_completion fun _ _ => rfl

theorem fireAll_delete (r : Records) (k : TableName) (time : TriggerTime) (row : Frame) :
    r.database.fireAll .main time .delete row k.table.name = .ok () := by
  cases k <;> cases time <;> rfl

theorem deleteRow_stored (r : Records) (k : TableName) (row : Row) :
    r.database.deleteRow .main k.table.name row = .ok (r.without k (· == row)).database := by
  rw [deleteRow, schema_main, table?_stored]
  cases hcontains : (r.stored k).rows.contains row with
  | false =>
    have hnone : ∀ other ∈ (r.stored k).rows, (other == row) = false := by
      intro other hother
      rw [beq_eq_false_iff_ne]
      rintro rfl
      rw [List.contains_iff_mem.2 hother] at hcontains
      cases hcontains
    simp only [hcontains, Bool.not_false, if_true, without_of_forall hnone]
    rfl
  | true =>
    simp only [hcontains, Bool.not_true, Bool.false_eq_true, if_false, fireAll_delete,
      deleteRows_stored, ok_bind, setSchema_main]
    rfl

theorem deleteEach_stored (rows : List Row) (r : Records) (k : TableName) (last : Int) :
    deleteEach .main k.table.name rows ⟨r.database, last⟩ =
      (⟨(r.without k (rows.contains ·)).database, last⟩, none) := by
  induction rows generalizing r with
  | nil =>
    have hsame : r.without k (([] : List Row).contains ·) = r := without_of_forall fun _ _ => rfl
    rw [hsame]
    rfl
  | cons row rest ih =>
    simp only [deleteEach, deleteRow_stored, ih, without_without]
    refine congrArg (fun r' : Records => ((⟨r'.database, last⟩ : Progress), none)) ?_
    exact without_congr fun other _ => List.contains_cons.symm

/-! ## What a filter selects -/

/-- Values of one class, and of a column for it, are equal if they compare as equal. -/
theorem exists_truth_compared {a : Affinity} {x v : Value} (ha : a = .integer ∨ a = .text)
    (hv : (MemberType.ofAffinity a).holds v = true)
    (hx : x = .null ∨ (MemberType.ofAffinity a).holds x = true) :
    ∃ o, compared (comparisonAffinity (some a) none) (· == .eq) x v = .ofTruth o ∧
      (o == some true) = (v == x) := by
  rcases ha with rfl | rfl
  · cases v <;> cases hv
    rename_i n
    rcases hx with rfl | hx
    · exact ⟨none, rfl, rfl⟩
    · cases x <;> cases hx
      rename_i m
      refine ⟨some (compare m n == .eq), rfl, ?_⟩
      rw [compareInt_beq_eq, Option.some_beq_some, beq_true, Bool.eq_iff_iff, beq_iff_eq, beq_iff_eq,
        Value.integer.injEq, eq_comm]
  · cases v <;> cases hv
    rename_i s
    rcases hx with rfl | hx
    · exact ⟨none, rfl, rfl⟩
    · cases x <;> cases hx
      rename_i u
      refine ⟨some (compareText u s == .eq), rfl, ?_⟩
      rw [compareText_beq_eq, Option.some_beq_some, beq_true, Bool.eq_iff_iff, beq_iff_eq,
        beq_iff_eq, Value.text.injEq, eq_comm]

/-- What the name of a column means for a row. -/
theorem findName?_stored {row : Row} (h : row ∈ (r.stored k).rows) {m : Member}
    (hm : m ∈ members .delete k.table) :
    findName? none m.column.name [[(r.stored k).frame row]] =
        some ⟨k.valueIn row m.column.name, m.column.affinity⟩ ∧
      (m.column.affinity = .integer ∨ m.column.affinity = .text) ∧
      (k.valueIn row m.column.name = .null ∨ m.type.holds (k.valueIn row m.column.name) = true) := by
  obtain ⟨c, hc, rfl⟩ := List.mem_map.1 hm
  cases k with
  | tasks =>
    obtain ⟨t, -, rfl⟩ := List.mem_map.1 h
    obtain rfl | hc := List.mem_cons.1 hc
    · exact ⟨rfl, .inl rfl, .inr rfl⟩
    obtain rfl | rfl | rfl := mem_three hc
    · exact ⟨rfl, .inr rfl, .inr rfl⟩
    · exact ⟨rfl, .inr rfl, .inr rfl⟩
    · refine ⟨rfl, .inl rfl, ?_⟩
      have hvalue : TableName.valueIn .tasks t.row "intervalDay" = orNull .integer t.intervalDay :=
        rfl
      simp only [Column.declare, hvalue]
      cases t.intervalDay with
      | none => exact .inl rfl
      | some n => exact .inr rfl
  | changes =>
    obtain ⟨x, -, rfl⟩ := List.mem_map.1 h
    obtain rfl | rfl | rfl := mem_three hc
    · exact ⟨rfl, .inl rfl, .inr rfl⟩
    · exact ⟨rfl, .inr rfl, .inr rfl⟩
    · exact ⟨rfl, .inr rfl, .inr rfl⟩
  | completions =>
    obtain ⟨x, -, rfl⟩ := List.mem_map.1 h
    obtain rfl | rfl | rfl := mem_three hc
    · exact ⟨rfl, .inl rfl, .inr rfl⟩
    · exact ⟨rfl, .inl rfl, .inr rfl⟩
    · exact ⟨rfl, .inr rfl, .inr rfl⟩

/-- What a filter binds for a column. -/
theorem binding_filterFields (p : Params .delete k.table) {m : Member}
    (hm : m ∈ members .delete k.table) {v : Value} (hv : p.value m.column.name = some v) :
    binding (filterFields p).named (":" ++ m.column.name) = v := by
  have hdistinct : (columnNames .delete k.table).Nodup := by cases k <;> decide
  have hfield : (m.column.name, v) ∈ (filterFields p).named := by
    obtain ⟨c, -, rfl⟩ := List.mem_map.1 hm
    refine List.mem_filterMap.2 ⟨_, hm, ?_⟩
    rw [Member.field?, hv]
    rfl
  have hnodup : ((filterFields p).named.map (·.1)).Nodup := (fits_boundFields hdistinct p.value).nodup
  rw [binding_eq hnodup hfield]
  have hreal : ∀ m ∈ members .delete k.table, m.type ≠ .f64 := by
    cases k <;> decide
  have hholds := p.fits.typed m hm v hv
  cases v with
  | real x =>
    cases htype : m.type with
    | f64 => exact absurd htype (hreal m hm)
    | _ => rw [htype] at hholds; cases hholds
  | _ => rfl

/-- **A filter selects the rows that have all of its values.** -/
theorem meets_filterFields {p : Params .delete k.table} (hsome : filterFields p ≠ []) {row : Row}
    (hrow : row ∈ (r.stored k).rows) :
    (conjunction (filterFields p).names).Meets
      (r.database.environment (binding (filterFields p).named) [[(r.stored k).frame row]])
      (k.selects p.value row) := by
  have hne : (filterFields p).names ≠ [] := fun h => hsome (List.map_eq_nil_iff.1 h)
  have hselects : k.selects p.value row =
      (filterFields p).names.all fun c => (p.value c).all (· == k.valueIn row c) := by
    rw [Bool.eq_iff_iff, TableName.selects, List.all_eq_true, List.all_eq_true]
    constructor
    · exact fun h c hc => h c (mem_names_filterFields.1 hc).1
    · intro h c hc
      cases hv : p.value c with
      | none => rfl
      | some v =>
        rw [← hv]
        exact h c (mem_names_filterFields.2 ⟨hc, by rw [hv]; rfl⟩)
  rw [hselects]
  refine meets_conjunction hne fun c hc => ?_
  obtain ⟨hcolumn, hsome⟩ := mem_names_filterFields.1 hc
  obtain ⟨m, hm, rfl⟩ := List.mem_map.1 hcolumn
  obtain ⟨v, hv⟩ := Option.isSome_iff_exists.1 hsome
  obtain ⟨hcell, haffinity, hclass⟩ := findName?_stored hrow hm
  obtain ⟨o, ho, htruth⟩ := exists_truth_compared haffinity (p.fits.typed m hm v hv) hclass
  refine ⟨o, ?_, by rw [htruth, hv]; rfl⟩
  rw [Expr.HasTruth, ← ho]
  simp only [equation, Expr.eval, Expr.affinity?, environment, hcell, ok_bind, BinaryOp.apply,
    binding_filterFields p hm hv, Option.map_some]

/-! ## What a call comes to -/

theorem columnWords (k : TableName) : ∀ c ∈ columnNames .delete k.table, IsColumnWord c := by
  unfold IsColumnWord IsUsableName
  cases k <;> decide +kernel

theorem hasColumns_stored (r : Records) (k : TableName) :
    (r.stored k).HasColumns (columnNames .delete k.table) := by
  have hnames : columnNames .delete k.table = (r.stored k).columns.map (·.name) := by
    cases k <;> rfl
  have hdistinct : ((columnNames .delete k.table).map Text.lowerAscii).Nodup := by
    cases k <;> decide +kernel
  rw [hnames, List.map_map] at hdistinct
  rw [hnames]
  exact hasColumns_of_nodup hdistinct

theorem runQuery_deletion_stored (h : r.refersToTasks = true) {p : Params .delete k.table}
    (hsome : filterFields p ≠ []) (last : Int) :
    r.database.runQuery last (Filter.deletion k.table.name (filterFields p)) (filterFields p).named =
      ⟨(r.without k (k.selects p.value)).database, last, .ok []⟩ := by
  have hcolumns : ∀ c ∈ (filterFields p).names, c ∈ columnNames .delete k.table := fun c hc =>
    (mem_names_filterFields.1 hc).1
  have hprepare : r.database.prepareDelete ⟨none, k.table.name⟩ (conjunction (filterFields p).names) =
      .ok (.main, r.stored k) := by
    have hhas : (r.stored k).HasColumns (filterFields p).names := fun c hc =>
      r.hasColumns_stored k c (hcolumns c hc)
    cases k <;> exact prepareDelete_conjunction rfl hhas rfl rfl rfl
  have hdelete := deleteEach_stored ((r.stored k).rows.filter (k.selects p.value)) r k last
  rw [← name_stored r] at hdelete
  rw [runQuery_deletion (usable_table k) hsome (fun c hc => columnWords k c (hcolumns c hc)) hprepare
    (fun row hrow => meets_filterFields hsome hrow) hdelete]
  have hsame : r.without k (((r.stored k).rows.filter (k.selects p.value)).contains ·) =
      r.without k (k.selects p.value) := by
    refine without_congr fun row hrow => ?_
    rw [Bool.eq_iff_iff, List.contains_iff_mem, List.mem_filter]
    exact ⟨And.right, fun hselects => ⟨hrow, hselects⟩⟩
  rw [hsame]
  exact (atEnd_main r ((r.without k (k.selects p.value)), last) _).trans
    (if_pos (refersToTasks_without h))

/-- A deletion without a condition is no statement. -/
theorem runQuery_withoutCondition (db : Database) (k : TableName) (last : Int) :
    db.runQuery last (Filter.deletion k.table.name []) [] = db.unchanged last (.error .invalid) := by
  have hread : readStatement (lex (Filter.deletion k.table.name [])) = .error .invalid := by
    cases k <;> decide +kernel
  rw [Database.runQuery, onlyStatement, hread]
  rfl

end Records

open Records

variable {r : Records} {s : Session}

/-- **What a call that deletes rows comes to**, if its filter has a member. -/
theorem effect_deleteCall (hs : s.database = r.database) (h : r.refersToTasks = true)
    {p : Params .delete k.table} (hsome : filterFields p ≠ []) :
    Effect (deleteCall k p) s (.ok ()) (r.without k (k.selects p.value)).database := by
  have heffect := effect_delete k.table.name (filterFields p) s
  rw [hs, runQuery_deletion_stored h hsome] at heffect
  exact heffect

/-- A call with an empty filter fails, and nothing is deleted. -/
theorem effect_deleteCall_empty {p : Params .delete k.table} (hnone : filterFields p = []) :
    Effect (deleteCall k p) s (.error (.database .invalid)) s.database := by
  have heffect := effect_delete k.table.name (filterFields p) s
  rw [hnone] at heffect
  rw [show deleteCall k p = Session.delete k.table.name (filterFields p) from rfl, hnone]
  have hrun := runQuery_withoutCondition s.database k s.lastId
  exact heffect.of_outcome_eq hrun

end Tablewright.Tracker
