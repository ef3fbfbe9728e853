import Mathlib.Data.List.Nodup
import Tablewright.Statement.Batch

/-!
# What a batched write binds

A batch is written by one statement only if all rows supply the same columns; otherwise the first
row that differs from row 0 is reported (`statement_eq_error_iff`). If they do, the statement
lists the shared columns once, every row has a tuple of them, and every placeholder is bound to
the value of its own row and column:

* `parameterName_inj`: the number of a row and a column are read back from the name of their
  parameter, whatever the column is called.
* `nodup_parameters`: no two parameters of a batch have the same name.
* `mem_parameters`: the parameters are the fields of the rows, each under the number of its row.
* `tuples_eq`: the tuples list the shared columns, row after row.
-/

namespace Tablewright

/-- The names of the columns that a row supplies. -/
def Fields.names (row : Fields) : List String :=
  row.map (·.1)

theorem Fields.supplies_iff (row : Fields) (c : String) : row.supplies c = true ↔ c ∈ row.names := by
  simp [supplies, names]

/-- Two rows supply the same columns, in whatever order. -/
def Fields.SameColumns (a b : Fields) : Prop :=
  ∀ c, c ∈ a.names ↔ c ∈ b.names

/-- A row that names each of its columns once, all of them among `columns`. -/
structure Fields.FitsInto (row : Fields) (columns : List String) : Prop where
  nodup : row.names.Nodup
  known : ∀ c ∈ row.names, c ∈ columns

namespace Batch

/-! ## Names of parameters -/

theorem toList_parameterName (i : Nat) (c : String) :
    (parameterName i c).toList = Nat.toDigits 10 i ++ '_' :: c.toList := by
  simp [parameterName]

theorem takeWhile_parameterName (i : Nat) (c : String) :
    (parameterName i c).toList.takeWhile (· != '_') = Nat.toDigits 10 i := by
  rw [toList_parameterName, List.takeWhile_append_of_pos]
  · simp
  · intro x hx
    have hne : x ≠ '_' := fun h => Nat.underscore_not_in_toDigits (h ▸ hx)
    simpa using hne

theorem toDigits_inj {i j : Nat} (h : Nat.toDigits 10 i = Nat.toDigits 10 j) : i = j := by
  have := congrArg (fun l => Nat.ofDigitChars 10 l 0) h
  simpa using this

/-- **A parameter belongs to one row and one column.** The digits of the row end at the first
underscore, so a column may begin with digits or underscores itself. -/
theorem parameterName_inj {i j : Nat} {c d : String} :
    parameterName i c = parameterName j d ↔ i = j ∧ c = d := by
  refine ⟨fun h => ?_, fun ⟨hi, hc⟩ => hi ▸ hc ▸ rfl⟩
  have hd : Nat.toDigits 10 i = Nat.toDigits 10 j := by
    rw [← takeWhile_parameterName i c, h, takeWhile_parameterName]
  obtain rfl := toDigits_inj hd
  have hl := congrArg String.toList h
  rw [toList_parameterName, toList_parameterName, List.append_cancel_left_eq] at hl
  exact ⟨rfl, String.toList_inj.1 (List.cons.inj hl).2⟩

/-! ## Columns of a row -/

theorem mem_supplied {columns : List String} {row : Fields} {c : String} :
    c ∈ supplied columns row ↔ c ∈ columns ∧ c ∈ row.names := by
  rw [supplied, List.mem_filter, Fields.supplies_iff]

theorem mem_supplied_of_fits {columns : List String} {row : Fields} (fits : row.FitsInto columns)
    {c : String} : c ∈ supplied columns row ↔ c ∈ row.names :=
  mem_supplied.trans ⟨And.right, fun h => ⟨fits.known c h, h⟩⟩

/-- Rows have the same columns exactly if the statement would list the same for them. -/
theorem supplied_eq_iff {columns : List String} {a b : Fields} (ha : a.FitsInto columns)
    (hb : b.FitsInto columns) : supplied columns a = supplied columns b ↔ a.SameColumns b := by
  constructor
  · intro h c
    rw [← mem_supplied_of_fits ha, h, mem_supplied_of_fits hb]
  · intro h
    refine List.filter_congr fun c _ => ?_
    rw [Bool.eq_iff_iff, Fields.supplies_iff, Fields.supplies_iff]
    exact h c

/-! ## The first row that differs -/

/-- Row `index` supplies other columns than `first`, and all rows before it the same. -/
structure FirstMismatch (first : Fields) (rows : List Fields) (index : Nat) (row : Fields) :
    Prop where
  at_index : rows[index]? = some row
  differs : ¬first.SameColumns row
  before : ∀ j < index, ∀ r, rows[j]? = some r → first.SameColumns r

theorem firstMismatch_cons_of_same {first row r : Fields} {rows : List Fields} {index : Nat}
    (h : first.SameColumns row) :
    FirstMismatch first (row :: rows) (index + 1) r ↔ FirstMismatch first rows index r := by
  constructor
  · rintro ⟨hi, hd, hb⟩
    exact ⟨by simpa using hi, hd, fun j hj r' hr => hb (j + 1) (by omega) r' (by simpa using hr)⟩
  · rintro ⟨hi, hd, hb⟩
    refine ⟨by simpa using hi, hd, fun j hj r' hr => ?_⟩
    cases j with
    | zero => simp only [List.getElem?_cons_zero, Option.some.injEq] at hr; exact hr ▸ h
    | succ j => exact hb j (by omega) r' (by simpa using hr)

theorem not_firstMismatch_zero {first row r : Fields} {rows : List Fields}
    (h : first.SameColumns row) : ¬FirstMismatch first (row :: rows) 0 r := by
  rintro ⟨hi, hd, -⟩
  simp only [List.getElem?_cons_zero, Option.some.injEq] at hi
  exact hd (hi ▸ h)

theorem firstMismatch_cons_of_differs {first row r : Fields} {rows : List Fields} {index : Nat}
    (h : ¬first.SameColumns row) :
    FirstMismatch first (row :: rows) index r ↔ index = 0 ∧ r = row := by
  constructor
  · rintro ⟨hi, -, hb⟩
    cases index with
    | zero => exact ⟨rfl, by simpa using hi.symm⟩
    | succ index => exact absurd (hb 0 (by omega) row (by simp)) h
  · rintro ⟨rfl, rfl⟩
    exact ⟨by simp, h, fun j hj => absurd hj (by omega)⟩

variable {table : String} {columns : List String} {first : Fields}

/-- The check of the rows from number `start` on reports the first that differs from row 0. -/
theorem checkRows_eq_error_iff (hf : first.FitsInto columns) (start : Nat) {rows : List Fields}
    (fits : ∀ row ∈ rows, row.FitsInto columns) (e : BatchError) :
    checkRows table columns (supplied columns first) start rows = .error e ↔
      ∃ index row, FirstMismatch first rows index row ∧
        e = .mismatched table (start + index) (supplied columns first) (supplied columns row) := by
  induction rows generalizing start with
  | nil =>
    simp only [checkRows, reduceCtorEq, false_iff, not_exists, not_and]
    rintro index row ⟨hi, -, -⟩
    simp at hi
  | cons row rows ih =>
    have hrow := fits row (by simp)
    have hrest : ∀ r ∈ rows, r.FitsInto columns := fun r hr => fits r (by simp [hr])
    rw [checkRows]
    by_cases same : first.SameColumns row
    · rw [if_pos ((supplied_eq_iff hf hrow).2 same).symm, ih (start + 1) hrest]
      constructor
      · rintro ⟨index, r, hm, rfl⟩
        exact ⟨index + 1, r, (firstMismatch_cons_of_same same).2 hm, by congr 1; omega⟩
      · rintro ⟨index, r, hm, rfl⟩
        cases index with
        | zero => exact absurd hm (not_firstMismatch_zero same)
        | succ index =>
          exact ⟨index, r, (firstMismatch_cons_of_same same).1 hm, by congr 1; omega⟩
    · rw [if_neg fun h => same ((supplied_eq_iff hf hrow).1 h.symm)]
      simp only [firstMismatch_cons_of_differs same]
      constructor
      · intro h
        exact ⟨0, row, ⟨rfl, rfl⟩, by simpa using h.symm⟩
      · rintro ⟨-, -, ⟨rfl, rfl⟩, rfl⟩
        rfl

theorem checkRows_eq_ok (hf : first.FitsInto columns) (start : Nat) {rows : List Fields}
    (fits : ∀ row ∈ rows, row.FitsInto columns) (same : ∀ row ∈ rows, first.SameColumns row) :
    checkRows table columns (supplied columns first) start rows = .ok () := by
  induction rows generalizing start with
  | nil => rfl
  | cons row rows ih =>
    rw [checkRows, if_pos ((supplied_eq_iff hf (fits row (by simp))).2 (same row (by simp))).symm]
    exact ih (start + 1) (fun r hr => fits r (by simp [hr])) fun r hr => same r (by simp [hr])

/-! ## The statement -/

theorem statement_cons (verb : WriteVerb) (rest : List Fields) :
    statement verb table columns (first :: rest) =
      (checkRows table columns (supplied columns first) 1 rest).bind fun _ =>
        if (supplied columns first).isEmpty then
          .ok (writeHead verb table "rowid" ++
            commaSeparated ((first :: rest).map fun _ => "(NULL)"), [])
        else
          .ok (writeHead verb table (commaSeparated (supplied columns first)) ++
            tuples columns (first :: rest), parameters (first :: rest)) := by
  simp only [statement, uniformColumns, List.isEmpty_cons, Bool.false_eq_true, if_false, bind,
    Except.bind, pure, Except.pure]
  cases checkRows table columns (supplied columns first) 1 rest <;> simp

theorem statement_eq_error_iff (verb : WriteVerb) {rest : List Fields}
    (hf : first.FitsInto columns) (fits : ∀ row ∈ rest, row.FitsInto columns) (e : BatchError) :
    statement verb table columns (first :: rest) = .error e ↔
      ∃ index row, FirstMismatch first (first :: rest) index row ∧
        e = .mismatched table index (supplied columns first) (supplied columns row) := by
  have hself : first.SameColumns first := fun _ => Iff.rfl
  have hcheck : checkRows table columns (supplied columns first) 1 rest = .error e ↔ _ :=
    checkRows_eq_error_iff hf 1 fits e
  rw [statement_cons]
  constructor
  · intro h
    cases hc : checkRows table columns (supplied columns first) 1 rest with
    | ok u => rw [hc] at h; simp only [Except.bind] at h; split at h <;> cases h
    | error e' =>
      rw [hc] at h
      obtain rfl : e' = e := by simpa [Except.bind] using h
      obtain ⟨index, row, hm, rfl⟩ := hcheck.1 hc
      exact ⟨index + 1, row, (firstMismatch_cons_of_same hself).2 hm, by congr 1; omega⟩
  · rintro ⟨index, row, hm, rfl⟩
    cases index with
    | zero => exact absurd hm (not_firstMismatch_zero hself)
    | succ index =>
      have := hcheck.2 ⟨index, row, (firstMismatch_cons_of_same hself).1 hm, by congr 1; omega⟩
      rw [this]
      rfl

theorem statement_eq_ok (verb : WriteVerb) {rest : List Fields} (hf : first.FitsInto columns)
    (fits : ∀ row ∈ rest, row.FitsInto columns) (same : ∀ row ∈ rest, first.SameColumns row)
    (some : supplied columns first ≠ []) :
    statement verb table columns (first :: rest) =
      .ok (writeHead verb table (commaSeparated (supplied columns first)) ++
        tuples columns (first :: rest), parameters (first :: rest)) := by
  rw [statement_cons, checkRows_eq_ok hf 1 fits same]
  simp [Except.bind, some]

/-- A first row that differs is there if any row does. -/
theorem exists_firstMismatch_iff {rows : List Fields} :
    (∃ index row, FirstMismatch first rows index row) ↔ ∃ row ∈ rows, ¬first.SameColumns row := by
  constructor
  · rintro ⟨index, row, hmismatch⟩
    exact ⟨row, List.mem_of_getElem? hmismatch.at_index, hmismatch.differs⟩
  · rintro ⟨row, hrow, hdiffers⟩
    induction rows with
    | nil => cases hrow
    | cons r rows ih =>
      by_cases same : first.SameColumns r
      · have hmem : row ∈ rows := by
          rcases List.mem_cons.1 hrow with rfl | hrow
          · exact absurd same hdiffers
          · exact hrow
        obtain ⟨index, row, hmismatch⟩ := ih hmem
        exact ⟨index + 1, row, (firstMismatch_cons_of_same same).2 hmismatch⟩
      · exact ⟨0, r, (firstMismatch_cons_of_differs same).2 ⟨rfl, rfl⟩⟩

/-- **Columns are reported as mismatched exactly if two rows supply different ones.** -/
theorem exists_mismatched_iff (verb : WriteVerb) {rows : List Fields}
    (fits : ∀ row ∈ rows, row.FitsInto columns) :
    (∃ index expected found,
      statement verb table columns rows = .error (.mismatched table index expected found)) ↔
      ∃ a ∈ rows, ∃ b ∈ rows, ¬a.SameColumns b := by
  cases rows with
  | nil =>
    constructor
    · rintro ⟨_, _, _, h⟩
      cases h
    · rintro ⟨a, ha, -⟩
      cases ha
  | cons first rest =>
    obtain ⟨hf, hrest⟩ := List.forall_mem_cons.1 fits
    constructor
    · rintro ⟨index, _, _, h⟩
      obtain ⟨index, row, hmismatch, -⟩ := (statement_eq_error_iff verb hf hrest _).1 h
      exact ⟨first, List.mem_cons_self, row, List.mem_of_getElem? hmismatch.at_index,
        hmismatch.differs⟩
    · rintro ⟨a, ha, b, hb, hdiffers⟩
      have hrow : ∃ row ∈ first :: rest, ¬first.SameColumns row := by
        by_contra hsame
        simp only [not_exists, not_and, not_not] at hsame
        exact hdiffers fun c => (hsame a ha c).symm.trans (hsame b hb c)
      obtain ⟨index, row, hmismatch⟩ := exists_firstMismatch_iff.2 hrow
      exact ⟨index, _, _, (statement_eq_error_iff verb hf hrest _).2 ⟨index, row, hmismatch, rfl⟩⟩

/-- Rows with the same columns have the same list of placeholders, each with its own number. -/
theorem tuples_eq {rows : List Fields} (hf : first.FitsInto columns)
    (fits : ∀ row ∈ rows, row.FitsInto columns) (same : ∀ row ∈ rows, first.SameColumns row) :
    tuples columns rows = commaSeparated (rows.mapIdx fun i _ => "(" ++
      commaSeparated ((supplied columns first).map fun c => ":" ++ parameterName i c) ++ ")") := by
  rw [tuples]
  congr 1
  refine List.ext_getElem (by simp) fun i h₁ h₂ => ?_
  have hi : i < rows.length := by simpa using h₁
  rw [List.getElem_mapIdx, List.getElem_mapIdx, tuple,
    (supplied_eq_iff hf (fits _ (List.getElem_mem hi))).2 (same _ (List.getElem_mem hi))]

/-! ## Parameters -/

theorem names_rowParameters (i : Nat) (row : Fields) :
    (rowParameters i row).map (·.1) = row.names.map (parameterName i) := by
  simp [rowParameters, Fields.names, Function.comp_def]

theorem mem_parameters {rows : List Fields} {p : String × Value} :
    p ∈ parameters rows ↔
      ∃ i row, rows[i]? = some row ∧ ∃ field ∈ row, p = (parameterName i field.1, field.2) := by
  simp only [parameters, List.mem_flatten, List.mem_mapIdx]
  constructor
  · rintro ⟨l, ⟨i, h, rfl⟩, hp⟩
    obtain ⟨field, hfield, rfl⟩ := List.mem_map.1 hp
    exact ⟨i, rows[i], by simp [h], field, hfield, rfl⟩
  · rintro ⟨i, row, hi, field, hfield, rfl⟩
    obtain ⟨h, rfl⟩ := List.getElem?_eq_some_iff.1 hi
    exact ⟨_, ⟨i, h, rfl⟩, List.mem_map.2 ⟨field, hfield, rfl⟩⟩

/-- **No two parameters of a batch have the same name.** -/
theorem nodup_parameters {rows : List Fields} (distinct : ∀ row ∈ rows, row.names.Nodup) :
    ((parameters rows).map (·.1)).Nodup := by
  rw [parameters, List.map_flatten, List.nodup_flatten]
  constructor
  · intro l hl
    simp only [List.mem_map, List.mem_mapIdx] at hl
    obtain ⟨-, ⟨i, h, rfl⟩, rfl⟩ := hl
    rw [names_rowParameters]
    exact (distinct _ (List.getElem_mem h)).map fun c d hcd => (parameterName_inj.1 hcd).2
  · rw [List.pairwise_iff_getElem]
    intro i j hi hj hij
    simp only [List.getElem_map, List.getElem_mapIdx, names_rowParameters]
    intro name hi' hj'
    obtain ⟨c, -, rfl⟩ := List.mem_map.1 hi'
    obtain ⟨d, -, hd⟩ := List.mem_map.1 hj'
    have := (parameterName_inj.1 hd).1
    omega

/-- In a list with distinct names, an entry is the only one of its name. -/
theorem filter_eq_singleton {entries : List (String × Value)} (distinct : (entries.map (·.1)).Nodup)
    {entry : String × Value} (h : entry ∈ entries) :
    entries.filter (fun e => e.1 = entry.1) = [entry] := by
  induction entries with
  | nil => simp at h
  | cons e rest ih =>
    rw [List.map_cons, List.nodup_cons] at distinct
    obtain ⟨hnot, hrest⟩ := distinct
    rcases List.mem_cons.1 h with rfl | h
    · have : rest.filter (fun e => e.1 = entry.1) = [] := by
        rw [List.filter_eq_nil_iff]
        intro e he heq
        exact hnot (List.mem_map.2 ⟨e, he, by simpa using heq⟩)
      simp [this]
    · have hne : e.1 ≠ entry.1 := fun heq => hnot (List.mem_map.2 ⟨entry, h, heq.symm⟩)
      simp [hne, ih hrest h]

/-- **What all rows of a batch supply is listed, and bound for each row.** -/
theorem exists_listed_of_statement_eq_ok {verb : WriteVerb} {rows : List Fields} {text : String}
    {bound : Parameters} (fits : ∀ row ∈ rows, row.FitsInto columns)
    (h : statement verb table columns rows = .ok (text, bound)) {c : String}
    (hc : ∀ row ∈ rows, c ∈ row.names) :
    ∃ listed,
      text = writeHead verb table (commaSeparated listed) ++ commaSeparated (rows.mapIdx fun i _ =>
        "(" ++ commaSeparated (listed.map fun c => ":" ++ parameterName i c) ++ ")") ∧
      c ∈ listed ∧
      ∀ i row, rows[i]? = some row → ∀ v, (c, v) ∈ row →
        bound.filter (fun p => p.1 = parameterName i c) = [(parameterName i c, v)] := by
  cases rows with
  | nil => cases h
  | cons first rest =>
    obtain ⟨hf, hrest⟩ := List.forall_mem_cons.1 fits
    have same : ∀ row ∈ first :: rest, first.SameColumns row := by
      intro row hrow
      by_contra hdiffers
      have hreported : ∃ index expected found, statement verb table columns (first :: rest) =
          .error (.mismatched table index expected found) :=
        (exists_mismatched_iff verb fits).2 ⟨first, List.mem_cons_self, row, hrow, hdiffers⟩
      obtain ⟨_, _, _, herror⟩ := hreported
      rw [herror] at h
      cases h
    have hlisted : c ∈ supplied columns first :=
      (mem_supplied_of_fits hf).2 (hc first List.mem_cons_self)
    rw [statement_eq_ok verb hf hrest (List.forall_mem_cons.1 same).2 (List.ne_nil_of_mem hlisted),
      tuples_eq hf fits same] at h
    cases h
    refine ⟨supplied columns first, rfl, hlisted, fun i row hi v hv => ?_⟩
    exact filter_eq_singleton (nodup_parameters fun row hrow => (fits row hrow).nodup)
      (mem_parameters.2 ⟨i, row, hi, (c, v), hv, rfl⟩)

/-- **Every value of a batch is bound in its own place.** The first row that supplies other columns
than row 0 is reported. If there is none, the statement lists the shared columns in their order,
row `i` has the placeholder `:i_c` for each of them, and the one parameter of that name holds the
value that row `i` gives for `c`. -/
theorem statement_binds_every_value (verb : WriteVerb) (table : String) {columns : List String}
    (distinct : columns.Nodup) (first : Fields) (rest : List Fields)
    (fits : ∀ row ∈ first :: rest, row.FitsInto columns) :
    (∀ e, statement verb table columns (first :: rest) = .error e ↔
      ∃ index row, FirstMismatch first (first :: rest) index row ∧
        e = .mismatched table index (supplied columns first) (supplied columns row)) ∧
    ((∀ row ∈ rest, first.SameColumns row) → first.names ≠ [] →
      ∃ listed bound,
        statement verb table columns (first :: rest) =
          .ok (verb.keyword ++ " INTO " ++ table ++ " (" ++ commaSeparated listed ++ ") VALUES " ++
            commaSeparated ((first :: rest).mapIdx fun i _ => "(" ++
              commaSeparated (listed.map fun c => ":" ++ parameterName i c) ++ ")"), bound) ∧
        (listed.Sublist columns ∧ listed.Nodup ∧ ∀ c, c ∈ listed ↔ c ∈ first.names) ∧
        (bound.map (·.1)).Nodup ∧
        (∀ i row, (first :: rest)[i]? = some row → ∀ c ∈ listed, ∃ v,
          row.filter (fun field => field.1 = c) = [(c, v)] ∧
          bound.filter (fun p => p.1 = parameterName i c) = [(parameterName i c, v)]) ∧
        ∀ p ∈ bound, ∃ i < (first :: rest).length, ∃ c ∈ listed, p.1 = parameterName i c) := by
  have hf := fits first (by simp)
  have hrest : ∀ row ∈ rest, row.FitsInto columns := fun row h => fits row (by simp [h])
  refine ⟨fun e => statement_eq_error_iff verb hf hrest e, fun same some => ?_⟩
  have hlisted : ∀ c, c ∈ supplied columns first ↔ c ∈ first.names := fun c =>
    mem_supplied_of_fits hf
  have hne : supplied columns first ≠ [] := by
    obtain ⟨c, hc⟩ := List.exists_mem_of_ne_nil _ some
    exact List.ne_nil_of_mem ((hlisted c).2 hc)
  have same' : ∀ row ∈ first :: rest, first.SameColumns row := by
    intro row h
    rcases List.mem_cons.1 h with rfl | h
    · exact fun _ => Iff.rfl
    · exact same row h
  have hnames := nodup_parameters fun row h => (fits row h).nodup
  refine ⟨supplied columns first, parameters (first :: rest), ?_,
    ⟨List.filter_sublist, distinct.filter _, hlisted⟩, hnames, ?_, ?_⟩
  · rw [statement_eq_ok verb hf hrest same hne, tuples_eq hf fits same', writeHead]
  · intro i row hi c hc
    have hrow := List.mem_of_getElem? hi
    obtain ⟨⟨c', v⟩, hv, rfl⟩ := List.mem_map.1 ((same' row hrow c).1 ((hlisted c).1 hc))
    exact ⟨v, filter_eq_singleton (fits row hrow).nodup hv,
      filter_eq_singleton hnames (mem_parameters.2 ⟨i, row, hi, _, hv, rfl⟩)⟩
  · intro p hp
    obtain ⟨i, row, hi, field, hfield, rfl⟩ := mem_parameters.1 hp
    have hrow := List.mem_of_getElem? hi
    refine ⟨i, (List.getElem?_eq_some_iff.1 hi).1, field.1, (hlisted _).2 ?_, rfl⟩
    exact (same' row hrow _).2 (List.mem_map.2 ⟨field, hfield, rfl⟩)

/-- Two rows that list their columns in different orders, one column looking like a parameter. -/
theorem statement_binds_every_value_awkward_names :
    ["a", "0_a"].Nodup ∧
    (∀ row ∈ [[("0_a", .integer 1), ("a", .null)], [("a", .text "x"), ("0_a", .integer 2)]],
      Fields.FitsInto row ["a", "0_a"]) ∧
    ∃ listed bound,
      statement .replace "t" ["a", "0_a"]
          [[("0_a", .integer 1), ("a", .null)], [("a", .text "x"), ("0_a", .integer 2)]] =
        .ok ("REPLACE INTO t (" ++ commaSeparated listed ++ ") VALUES " ++
          commaSeparated ([0, 1].map fun i => "(" ++
            commaSeparated (listed.map fun c => ":" ++ parameterName i c) ++ ")"), bound) ∧
      (bound.map (·.1)).Nodup := by
  have distinct : ["a", "0_a"].Nodup := by decide
  have fits : ∀ row ∈ [[("0_a", Value.integer 1), ("a", .null)],
      [("a", .text "x"), ("0_a", .integer 2)]], Fields.FitsInto row ["a", "0_a"] := by
    intro row h
    simp only [List.mem_cons, List.not_mem_nil, or_false] at h
    rcases h with rfl | rfl <;> exact ⟨by decide, by decide⟩
  refine ⟨distinct, fits, ?_⟩
  obtain ⟨listed, bound, hs, -, hn, -⟩ :=
    (statement_binds_every_value .replace "t" distinct _ _ fits).2 (by
      intro row h c
      simp only [List.mem_cons, List.not_mem_nil, or_false] at h
      simp [h, Fields.names, or_comm]) (by simp [Fields.names])
  exact ⟨listed, bound, hs, hn⟩

end Batch

end Tablewright
