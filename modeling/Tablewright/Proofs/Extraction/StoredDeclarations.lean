import Tablewright.Proofs.Database.IncrementedKey
import Tablewright.Proofs.Extraction.BuiltIn
import Tablewright.Proofs.Extraction.Declarations

/-!
# Running printed scripts

A printed table makes sense if its columns have different names, at most one of them is the primary
key, and only an `INTEGER` key is incremented (`exists_stored`). A script whose declarations have
different names, and whose indexes are over columns of tables in front of them, is run to its end: it
leaves the tables that were printed, in their order, and nothing temporary (`runStatements_declared`).
-/

namespace Tablewright.Catalog

open Sql TableDefinition Grammar

open Outline (ColumnDeclaration TableDeclaration)

/-! ## Keys -/

variable {t : TableDeclaration}

/-- The positions of the columns of the primary key. -/
def keyPositions (t : TableDeclaration) : List Nat :=
  (t.columns.mapIdx fun i c => if c.primaryKey then [i] else []).flatten

/-- The keys that a printed table declares. -/
def declaredKeys (t : TableDeclaration) : List DeclaredKey :=
  (t.columns.mapIdx fun i c =>
    if c.primaryKey then [.primary [i] false c.autoIncrement] else []).flatten

theorem mem_keyPositions {i : Nat} :
    i ∈ keyPositions t ↔ ∃ c, t.columns[i]? = some c ∧ c.primaryKey = true := by
  simp only [keyPositions, List.mem_flatten, List.mem_mapIdx]
  constructor
  · rintro ⟨_, ⟨j, hj, rfl⟩, hi⟩
    split at hi
    · rename_i hkey
      obtain rfl := List.mem_singleton.1 hi
      exact ⟨_, List.getElem?_eq_getElem hj, hkey⟩
    · cases hi
  · rintro ⟨c, hc, hkey⟩
    obtain ⟨hi, rfl⟩ := List.getElem?_eq_some_iff.1 hc
    exact ⟨_, ⟨i, hi, rfl⟩, by simp [hkey]⟩

theorem length_keyPositions (t : TableDeclaration) :
    (keyPositions t).length = t.columns.countP (·.primaryKey) := by
  have general : ∀ (columns : List ColumnDeclaration) (g : Nat → Nat),
      (columns.mapIdx fun i c => if c.primaryKey then [g i] else []).flatten.length =
        columns.countP (·.primaryKey) := by
    intro columns
    induction columns with
    | nil => exact fun _ => rfl
    | cons c columns ih =>
      intro g
      rw [List.mapIdx_cons, List.flatten_cons, List.length_append, ih fun i => g (i + 1),
        List.countP_cons]
      split <;> simp [Nat.add_comm]
  exact general t.columns id

theorem columns_definitionOf (t : TableDeclaration) :
    (definitionOf t).columns = t.columns.map columnDefinitionOf := by
  rw [definitionOf, plainDefinition, List.map_map]
  rfl

theorem columnKeys_definition (i : Nat) (c : ColumnDeclaration) :
    columnKeys i (columnDefinitionOf c) =
      if c.primaryKey then [.primary [i] false c.autoIncrement] else [] := by
  obtain ⟨name, affinity, notNull, primaryKey, autoIncrement⟩ := c
  cases notNull <;> cases primaryKey <;> rfl

theorem declaredKeys?_definitionOf (t : TableDeclaration) :
    declaredKeys? (definitionOf t) = some (declaredKeys t) := by
  have hcolumns : (t.columns.map columnDefinitionOf).mapIdx columnKeys =
      t.columns.mapIdx fun i c =>
        if c.primaryKey then [.primary [i] false c.autoIncrement] else [] := by
    refine List.ext_getElem (by simp) fun i _ _ => ?_
    simp [columnKeys_definition]
  have hconstraints : (definitionOf t).constraints = [] := rfl
  rw [declaredKeys?, columns_definitionOf, hcolumns, hconstraints]
  exact congrArg some (List.append_nil _)

theorem primaryColumns_declaredKeys (t : TableDeclaration) :
    (declaredKeys t).filterMap (·.primaryColumns?) = (keyPositions t).map fun i => [i] := by
  rw [declaredKeys, keyPositions, List.filterMap_flatten, List.map_flatten]
  congr 1
  refine List.ext_getElem (by simp) fun i _ _ => ?_
  simp only [List.getElem_map, List.getElem_mapIdx]
  split <;> rfl

theorem primaryColumns?_declaredKeys (h : t.columns.countP (·.primaryKey) ≤ 1) :
    primaryColumns? (declaredKeys t) = some (keyPositions t) := by
  rw [primaryColumns?, primaryColumns_declaredKeys]
  rw [← length_keyPositions] at h
  match hp : keyPositions t with
  | [] => rfl
  | [p] => rfl
  | p :: q :: _ => rw [hp] at h; simp at h

/-- The key of a column. -/
theorem exists_of_mem_declaredKeys {k : DeclaredKey} (hk : k ∈ declaredKeys t) :
    ∃ i c, t.columns[i]? = some c ∧ c.primaryKey = true ∧ k = .primary [i] false c.autoIncrement := by
  simp only [declaredKeys, List.mem_flatten, List.mem_mapIdx] at hk
  obtain ⟨_, ⟨i, hi, rfl⟩, hk⟩ := hk
  split at hk
  · rename_i hkey
    exact ⟨i, _, List.getElem?_eq_getElem hi, hkey, List.mem_singleton.1 hk⟩
  · cases hk

theorem keysFit_declaredKeys (h : ∀ c ∈ t.columns, c.autoIncrement = true → c.affinity = .integer) :
    keysFit (definitionOf t) (declaredKeys t) = true := by
  rw [keysFit, Bool.and_eq_true, List.all_eq_true]
  refine ⟨fun k hk => ?_, rfl⟩
  obtain ⟨i, c, hc, hkey, rfl⟩ := exists_of_mem_declaredKeys hk
  cases hincrement : c.autoIncrement with
  | false => rfl
  | true =>
    have haffinity := h c (List.mem_of_getElem? hc) hincrement
    have hcolumn : (definitionOf t).columns[i]? = some (columnDefinitionOf c) := by
      rw [columns_definitionOf, List.getElem?_map, hc, Option.map_some]
    have htype : (columnDefinitionOf c).declaredType = "INTEGER" := by
      rw [columnDefinitionOf, haffinity]
      rfl
    have hrowid : (definitionOf t).rowidColumn? (.primary [i] false true) = some i := by
      rw [rowidColumn?, hcolumn]
      simp only [htype, if_true]
    rw [hrowid]
    rfl

/-! ## Tables -/

/-- Whether no two columns of a table have one name, and at most one is the primary key. -/
def isConsistent (t : TableDeclaration) : Bool :=
  (t.columns.map fun c => Text.lowerAscii c.name).Nodup ∧ t.columns.countP (·.primaryKey) ≤ 1

theorem mem_plainConstraints {notNull primaryKey autoIncrement : Bool} {k : ColumnConstraint}
    (h : k ∈ plainConstraints notNull primaryKey autoIncrement) :
    k = .notNull ∨ ∃ autoIncrement, k = .primaryKey false autoIncrement := by
  rcases List.mem_append.1 h with h | h
  · cases notNull with
    | true => exact .inl (List.mem_singleton.1 h)
    | false => cases h
  · cases primaryKey with
    | true => exact .inr ⟨_, List.mem_singleton.1 h⟩
    | false => cases h

theorem columnsDiffer_of_nodup {columns : List ColumnDefinition}
    (h : (columns.map fun c => Text.lowerAscii c.name).Nodup) : columnsDiffer columns = true := by
  induction columns with
  | nil => rfl
  | cons c columns ih =>
    rw [List.map_cons, List.nodup_cons] at h
    rw [columnsDiffer, ih h.2, Bool.and_true, Bool.not_eq_true', List.any_eq_false]
    intro d hd hsame
    exact h.1 (List.mem_map.2 ⟨d, hd, (Text.sameName_iff.1 hsame).symm⟩)

/-- **A printed table makes sense.** -/
theorem exists_stored (ht : isConsistent t = true)
    (h : ∀ c ∈ t.columns, c.autoIncrement = true → c.affinity = .integer) :
    ∃ s, StoredTable.ofDefinition? (definitionOf t) = some s ∧ s.primaryKey = keyPositions t ∧
      s.columns = t.columns.map fun c => storedColumn (columnDefinitionOf c) false := by
  obtain ⟨hnames, hkey⟩ := of_decide_eq_true ht
  have hdiffer : columnsDiffer (definitionOf t).columns = true := by
    refine columnsDiffer_of_nodup ?_
    rw [columns_definitionOf, List.map_map]
    exact hnames
  have hplain : ∀ c ∈ (definitionOf t).columns, ∀ k ∈ c.constraints,
      k = .notNull ∨ ∃ autoIncrement, k = .primaryKey false autoIncrement := by
    intro c hc k hk
    rw [columns_definitionOf] at hc
    obtain ⟨c, -, rfl⟩ := List.mem_map.1 hc
    exact mem_plainConstraints hk
  have hconstraints : (definitionOf t).columns.all
      (fun c => c.constraints.all constraintMakesSense) = true := by
    refine List.all_eq_true.2 fun c hc => List.all_eq_true.2 fun k hk => ?_
    rcases hplain c hc k hk with rfl | ⟨_, rfl⟩ <;> rfl
  have hchecks : TableDefinition.checks (definitionOf t) = [] := by
    rw [List.eq_nil_iff_forall_not_mem]
    intro p hp
    rcases List.mem_append.1 hp with hp | hp
    · obtain ⟨c, hc, hp⟩ := List.mem_flatMap.1 hp
      obtain ⟨k, hk, heq⟩ := List.mem_filterMap.1 hp
      rcases hplain c hc k hk with rfl | ⟨_, rfl⟩ <;> cases heq
    · cases hp
  obtain ⟨foreignKeys, hforeign⟩ : ∃ ks, foreignKeys? (definitionOf t) = some ks := ⟨_, rfl⟩
  obtain ⟨s, hs⟩ : ∃ s, StoredTable.ofDefinition? (definitionOf t) = some s := by
    simp [StoredTable.ofDefinition?, declaredKeys?_definitionOf, primaryColumns?_declaredKeys hkey,
      hforeign, hdiffer, keysFit_declaredKeys h, hconstraints, hchecks]
  refine ⟨s, hs, ?_⟩
  obtain ⟨keys, primaryKey, _, hkeys, hprimary, -, -, rfl⟩ := StoredTable.exists_of_ofDefinition? hs
  rw [declaredKeys?_definitionOf] at hkeys
  cases hkeys
  rw [primaryColumns?_declaredKeys hkey] at hprimary
  cases hprimary
  refine ⟨rfl, ?_⟩
  have hrowid : (definitionOf t).withoutRowid = false := rfl
  refine List.ext_getElem (by simp [columns_definitionOf]) fun i _ _ => ?_
  simp [columns_definitionOf, hrowid]

/-! ## Schemas -/

/-- The table of a name among declared ones. -/
def tableNamed? (tables : List TableDeclaration) (name : String) : Option TableDeclaration :=
  tables.find? fun t => Text.sameName t.name name

/-- Whether an index is over columns of one of the tables. -/
def IndexDeclaration.fits (tables : List TableDeclaration) (i : IndexDeclaration) : Bool :=
  (tableNamed? tables i.table).any fun t =>
    i.columns.all fun c => t.columns.any fun d => Text.sameName d.name c

/-- What a schema holds behind declarations. -/
structure IsBuilt (declarations : List Declaration) (s : Schema) : Prop where
  tables : List.Forall₂ (fun t stored => StoredTable.ofDefinition? (definitionOf t) = some stored)
    (declarations.filterMap (·.table?)) s.tables
  relation : ∀ name, s.hasRelation name = true →
    ∃ t ∈ declarations.filterMap (·.table?), Text.sameName t.name name = true
  index : ∀ name, (s.index? name).isSome = true →
    ∃ d ∈ declarations, Text.sameName d.name name = true

section Definitions

variable {done : List Declaration} {s : Schema}

/-- A name that is new is free. -/
theorem IsBuilt.free (h : IsBuilt done s) {name : String}
    (hnew : ∀ d ∈ done, Text.sameName d.name name = false) :
    s.hasRelation name = false ∧ (s.index? name).isSome = false := by
  constructor <;> rw [Bool.eq_false_iff]
  · intro htaken
    obtain ⟨t, ht, hsame⟩ := h.relation name htaken
    obtain ⟨d, hd, hd'⟩ := List.mem_filterMap.1 ht
    have hname : d.name = t.name := by
      cases d with
      | table t' => rw [← Option.some.inj hd']; rfl
      | index => cases hd'
    rw [← hname, hnew d hd] at hsame
    cases hsame
  · intro htaken
    obtain ⟨d, hd, hsame⟩ := h.index name htaken
    rw [hnew d hd] at hsame
    cases hsame

/-- A schema that holds one more object of the name of a declaration. -/
theorem IsBuilt.append (h : IsBuilt done s) {d : Declaration} {s' : Schema}
    (htables : List.Forall₂
      (fun t stored => StoredTable.ofDefinition? (definitionOf t) = some stored) d.table?.toList
      s'.tables)
    (hrelation : ∀ name, s'.hasRelation name = true →
      ∃ t ∈ d.table?.toList, Text.sameName t.name name = true)
    (hindex : ∀ name, (s'.index? name).isSome = true → Text.sameName d.name name = true) :
    IsBuilt (done ++ [d]) (s ++ s') := by
  constructor
  · rw [List.filterMap_append, Schema.tables_append]
    refine List.rel_append h.tables ?_
    cases hd : d.table? with
    | none => simpa [hd] using htables
    | some t => simpa [hd] using htables
  · intro name hname
    rw [List.filterMap_append]
    rcases Schema.hasRelation_append.1 hname with hname | hname
    · obtain ⟨t, ht, hsame⟩ := h.relation name hname
      exact ⟨t, List.mem_append_left _ ht, hsame⟩
    · obtain ⟨t, ht, hsame⟩ := hrelation name hname
      exact ⟨t, List.mem_append_right _ (by simpa using ht), hsame⟩
  · intro name hname
    rcases Schema.isSome_index?_append.1 hname with hname | hname
    · obtain ⟨e, he, hsame⟩ := h.index name hname
      exact ⟨e, List.mem_append_left _ he, hsame⟩
    · exact ⟨d, by simp, hindex name hname⟩

/-- **A printed table is added.** -/
theorem define_table (h : IsBuilt done s) {t : TableDeclaration}
    (hnew : ∀ d ∈ done, Text.sameName d.name t.name = false)
    (hreserved : Database.isReservedName t.name = false) (ht : isConsistent t = true)
    (hinteger : ∀ c ∈ t.columns, c.autoIncrement = true → c.affinity = .integer) :
    ∃ s', Database.define ⟨s, []⟩ (.createTable (definitionOf t)) = .ok ⟨s', []⟩ ∧
      IsBuilt (done ++ [.table t]) s' := by
  obtain ⟨hrelation, hindex⟩ := h.free hnew
  obtain ⟨stored, hstored, -, -⟩ := exists_stored ht hinteger
  have hname : stored.name = t.name := (StoredTable.emptied_of_ofDefinition? hstored).2
  have hplace : Database.relationPlace ⟨s, []⟩ ⟨none, t.name⟩ false = .ok (.main, false) := by
    simp [Database.relationPlace, Database.creationSchema?, Database.required, Database.schema,
      hreserved, hindex, hrelation, ok_bind]
    rfl
  have hdefine : Database.createTable ⟨s, []⟩ (definitionOf t) =
      .ok ⟨Database.addTable s stored, []⟩ := by
    have hat : Database.relationPlace ⟨s, []⟩ (definitionOf t).name (definitionOf t).isTemporary =
        .ok (.main, false) := hplace
    rw [Database.createTable, hat, ok_bind, hstored]
    rfl
  refine ⟨_, hdefine, ?_⟩
  obtain ⟨added, hadded, htables, hrelations, hindexes⟩ := Schema.exists_of_addTable s stored
  rw [hadded]
  refine h.append ?_ ?_ ?_
  · rw [htables]
    exact .cons hstored .nil
  · intro name' hname'
    rw [Schema.hasRelation, hrelations, hname, List.any_cons, List.any_nil, Bool.or_false] at hname'
    exact ⟨t, by simp [Declaration.table?], hname'⟩
  · intro name' hname'
    rw [Schema.index?, hindexes] at hname'
    cases hname'

/-- The table of a name is found where it is declared. -/
theorem IsBuilt.exists_table (h : IsBuilt done s) {name : String} {t : TableDeclaration}
    (ht : tableNamed? (done.filterMap (·.table?)) name = some t) :
    ∃ stored, StoredTable.ofDefinition? (definitionOf t) = some stored ∧
      Database.findTable? ⟨s, []⟩ ⟨none, name⟩ = some (.main, stored) := by
  have hfind : ∀ {ts : List TableDeclaration} {stored : List StoredTable},
      List.Forall₂ (fun t st => StoredTable.ofDefinition? (definitionOf t) = some st) ts stored →
      tableNamed? ts name = some t → ∃ st, StoredTable.ofDefinition? (definitionOf t) = some st ∧
        stored.find? (fun st => Text.sameName st.name name) = some st := by
    intro ts stored hall ht
    induction hall with
    | nil => cases ht
    | @cons t' st ts stored hst _ ih =>
      have hname : st.name = t'.name := (StoredTable.emptied_of_ofDefinition? hst).2
      rw [tableNamed?, List.find?_cons] at ht
      rw [List.find?_cons, hname]
      split at ht
      · rename_i hsame
        cases ht
        exact ⟨st, hst, rfl⟩
      · rename_i hsame
        obtain ⟨st', hst', heq⟩ := ih ht
        exact ⟨st', hst', heq⟩
  obtain ⟨stored, hstored, htable⟩ := hfind h.tables ht
  have hlocated : s.table? name = some stored := htable
  obtain ⟨hmem, hsame⟩ := Schema.mem_tables_of_table? hlocated
  have hrelation : s.hasRelation name = true := by
    rw [Schema.hasRelation_iff, ← Text.sameName_iff.1 hsame]
    exact Schema.hasRelation_iff.1 (Schema.hasRelation_of_mem hmem)
  refine ⟨stored, hstored, ?_⟩
  have hnothing : Schema.hasRelation [] name = false := rfl
  simp [Database.findTable?, Database.locate?, Database.searchOrder, Database.schema, hnothing,
    hrelation, hlocated]

/-- A column of a table is a term of an index. -/
theorem exists_indexTerm {t : TableDeclaration} {stored : StoredTable}
    (h : StoredTable.ofDefinition? (definitionOf t) = some stored) {column : String}
    (hcolumn : t.columns.any (fun d => Text.sameName d.name column) = true) :
    ∃ position, Database.indexTerm? stored (.name none column false) = some position := by
  have hnames := StoredTable.names_of_ofDefinition? h
  rw [columns_definitionOf, List.map_map] at hnames
  obtain ⟨d, hd, hsame⟩ := List.any_eq_true.1 hcolumn
  have hmem : d.name ∈ stored.columns.map (·.name) := hnames ▸ List.mem_map.2 ⟨d, hd, rfl⟩
  obtain ⟨c, hc, hname⟩ := List.mem_map.1 hmem
  have hposition : (stored.position? column).isSome = true := by
    rw [StoredTable.position?, List.findIdx?_isSome, List.any_eq_true]
    exact ⟨c, hc, hname ▸ hsame⟩
  obtain ⟨position, hposition⟩ := Option.isSome_iff_exists.1 hposition
  refine ⟨some position, ?_⟩
  have hkey : (Expr.name none column false).keyColumn? = some column := rfl
  rw [Database.indexTerm?] <;> simp [hkey, hposition]

/-- **A printed index is added.** -/
theorem define_index (h : IsBuilt done s) {i : IndexDeclaration}
    (hnew : ∀ d ∈ done, Text.sameName d.name i.name = false)
    (hreserved : Database.isReservedName i.name = false)
    (hfits : i.fits (done.filterMap (·.table?)) = true) :
    ∃ s', Database.define ⟨s, []⟩ (Declaration.index i).statement = .ok ⟨s', []⟩ ∧
      IsBuilt (done ++ [.index i]) s' := by
  obtain ⟨hrelation, hindex⟩ := h.free hnew
  obtain ⟨t, ht, hcolumns⟩ := (Option.any_eq_true ..).1 hfits
  obtain ⟨stored, hstored, hfound⟩ := h.exists_table ht
  have hrows : stored.rows = [] := by
    obtain ⟨_, _, _, -, -, -, -, rfl⟩ := StoredTable.exists_of_ofDefinition? hstored
    rfl
  have hterms : (columnTerms i.columns).mapM (fun term => Database.indexTerm? stored term.expr) =
      some ((columnTerms i.columns).map fun term =>
        (Database.indexTerm? stored term.expr).getD none) := by
    refine mapM_eq_some fun term hterm => ?_
    obtain ⟨c, hc, rfl⟩ := List.mem_map.1 hterm
    obtain ⟨position, hposition⟩ := exists_indexTerm hstored (List.all_eq_true.1 hcolumns c hc)
    rw [hposition, Option.getD_some]
  generalize (columnTerms i.columns).map
    (fun term => (Database.indexTerm? stored term.expr).getD none) = positions at hterms
  have hcollide : ∀ columns, Database.hasCollision columns stored.rows = false := by
    rw [hrows]
    exact fun _ => rfl
  have hdefine : Database.createIndex ⟨s, []⟩
      ⟨⟨none, i.name⟩, i.isUnique, i.ifNotExists, i.table, columnTerms i.columns⟩ =
        .ok ⟨s ++ [.index ⟨i.name, stored.name, i.isUnique,
          if positions.all Option.isSome then some (positions.filterMap id) else none⟩], []⟩ := by
    simp [Database.createIndex, Database.required, hfound, hterms, hreserved, hrelation, hindex,
      hcollide, ok_bind, Database.schema]
    rfl
  refine ⟨_, hdefine, h.append .nil (fun name hname => by cases hname) fun name hname => ?_⟩
  simpa [Schema.index?, DatabaseObject.index?, Declaration.name] using hname

end Definitions

/-! ## Runs -/

/-- Whether a declaration makes sense behind others. -/
def Declaration.fits (done : List Declaration) (d : Declaration) : Bool :=
  (done.all fun e => !Text.sameName e.name d.name) && !Database.isReservedName d.name &&
    match d with
    | .table t => isConsistent t && t.columns.all fun c => !c.autoIncrement || c.affinity = .integer
    | .index i => i.fits (done.filterMap (·.table?))

/-- Whether declarations make sense one after the other, behind others. -/
def allFit (done : List Declaration) : List Declaration → Bool
  | [] => true
  | d :: ds => d.fits done && allFit (done ++ [d]) ds

section Runs

variable {done : List Declaration} {s : Schema} {ps : List (List Char × Declaration)}

/-- **A declaration that makes sense is added** to what is there. -/
theorem define_declaration (h : IsBuilt done s) {d : Declaration} (hd : d.fits done = true) :
    ∃ s', Database.define ⟨s, []⟩ d.statement = .ok ⟨s', []⟩ ∧ IsBuilt (done ++ [d]) s' := by
  simp only [Declaration.fits, Bool.and_eq_true, List.all_eq_true, Bool.not_eq_true'] at hd
  obtain ⟨⟨hnew, hreserved⟩, hfits⟩ := hd
  cases d with
  | table t =>
    simp only [Bool.and_eq_true, List.all_eq_true] at hfits
    refine define_table h hnew hreserved hfits.1 fun c hc hincrement => ?_
    simpa [hincrement] using hfits.2 c hc
  | index i => exact define_index h hnew hreserved hfits

theorem run_declaration {db db' : Database} (lastId : Int) (parameter : String → Value)
    {d : Declaration} (h : db.define d.statement = .ok db') :
    db.run lastId parameter d.statement = db'.unchanged lastId (.ok []) := by
  cases d <;> rw [Declaration.statement, Database.run, ← Declaration.statement, h] <;> simp

theorem gappedLexemes_cons (p : List Char × Declaration) (ps : List (List Char × Declaration)) :
    gappedLexemes (p :: ps) = p.2.lexemes p.1 ++ gappedLexemes ps :=
  rfl

/-- The end of a script. -/
def scriptEnd : List Lexeme :=
  [⟨[], [], .finish⟩]

/-- **Declarations that make sense are run to their end**, and nothing else is made. -/
theorem runStatements_declared (h : IsBuilt done s) (lastId : Int)
    (hreadable : ∀ p ∈ ps, p.2.isReadable = true) (hfit : allFit done (ps.map (·.2)) = true)
    {fuel : Nat} (hfuel : ps.length ≤ fuel) :
    ∃ s', Database.runStatements (gappedLexemes ps ++ scriptEnd) ⟨s, []⟩ lastId fuel =
      ⟨⟨s', []⟩, lastId, none⟩ ∧ IsBuilt (done ++ ps.map (·.2)) s' := by
  induction ps generalizing done s fuel with
  | nil =>
    refine ⟨s, ?_, by simpa using h⟩
    cases fuel <;> rfl
  | cons p ps ih =>
    obtain ⟨fuel, rfl⟩ : ∃ n, fuel = n + 1 := ⟨fuel - 1, by simp at hfuel; omega⟩
    rw [List.map_cons, allFit, Bool.and_eq_true] at hfit
    obtain ⟨s₁, hdefine, hbuilt⟩ := define_declaration h hfit.1
    obtain ⟨s', hrest, hbuilt'⟩ := ih hbuilt (fun q hq => hreadable q (List.mem_cons_of_mem p hq))
      hfit.2 (by simpa using hfuel)
    refine ⟨s', ?_, by simpa using hbuilt'⟩
    have hread : readStatement (p.2.lexemes p.1 ++ (gappedLexemes ps ++ scriptEnd)) =
        .ok (some (p.2.statement, gappedLexemes ps ++ scriptEnd)) :=
      readStatement_declaration (hreadable p List.mem_cons_self)
    rw [gappedLexemes_cons, List.append_assoc, Database.runStatements, hread]
    simp only [run_declaration lastId _ hdefine, Database.unchanged]
    exact hrest

theorem length_le_gappedLexemes (ps : List (List Char × Declaration)) :
    ps.length ≤ (gappedLexemes ps).length := by
  induction ps with
  | nil => exact Nat.le_refl 0
  | cons p ps ih =>
    have hp : 0 < (p.2.lexemes p.1).length := by
      cases p.2 <;> exact Nat.succ_pos _
    rw [gappedLexemes_cons, List.length_append, List.length_cons]
    omega

theorem map_gapped (ds : List Declaration) : (gapped ds).map (·.2) = ds := by
  cases ds with
  | nil => rfl
  | cons d ds => simp [gapped, Function.comp_def]

/-- **A printed script is run to its end**, and leaves what it declares. -/
theorem runScript_script {declarations : List Declaration}
    (hreadable : ∀ d ∈ declarations, d.isReadable = true) (hfit : allFit [] declarations = true) :
    ∃ s, Database.empty.runScript 0 (script declarations) = ⟨⟨s, []⟩, 0, none⟩ ∧
      IsBuilt declarations s := by
  have hempty : IsBuilt [] [] := ⟨.nil, nofun, nofun⟩
  have hgapped : ∀ p ∈ gapped declarations, p.2.isReadable = true := by
    intro p hp
    refine hreadable p.2 ?_
    rw [← map_gapped declarations]
    exact List.mem_map_of_mem hp
  have hfuel : (gapped declarations).length ≤
      (gappedLexemes (gapped declarations) ++ scriptEnd).length + 1 := by
    have := length_le_gappedLexemes (gapped declarations)
    simp
    omega
  obtain ⟨s, hrun, hbuilt⟩ := runStatements_declared hempty 0 hgapped (by rwa [map_gapped]) hfuel
  rw [List.nil_append, map_gapped] at hbuilt
  refine ⟨s, ?_, hbuilt⟩
  rw [Database.runScript, lex_script hreadable]
  exact hrun

/-- The statements of a printed script are those of its declarations. -/
theorem readStatements_declared (hreadable : ∀ p ∈ ps, p.2.isReadable = true) {fuel : Nat}
    (hfuel : ps.length ≤ fuel) : readStatements (gappedLexemes ps ++ scriptEnd) fuel =
      (ps.map fun p => p.2.statement, none) := by
  induction ps generalizing fuel with
  | nil => cases fuel <;> rfl
  | cons p ps ih =>
    obtain ⟨fuel, rfl⟩ : ∃ n, fuel = n + 1 := ⟨fuel - 1, by simp at hfuel; omega⟩
    have hrest := ih (fun q hq => hreadable q (List.mem_cons_of_mem p hq)) (by simpa using hfuel)
    have hread : readStatement (p.2.lexemes p.1 ++ (gappedLexemes ps ++ scriptEnd)) =
        .ok (some (p.2.statement, gappedLexemes ps ++ scriptEnd)) :=
      readStatement_declaration (hreadable p List.mem_cons_self)
    rw [gappedLexemes_cons, List.append_assoc, readStatements, hread]
    simp only [hrest, List.map_cons]

/-- Whether a declaration has no more columns than a table or a key may have. -/
def Declaration.isNarrow : Declaration → Bool
  | .table t => t.columns.length ≤ mostColumns
  | .index i => i.columns.length ≤ mostColumns

theorem isWithinLimits_statement {d : Declaration} (h : d.isNarrow = true) :
    d.statement.isWithinLimits = true := by
  cases d with
  | table t =>
    have hlength : (definitionOf t).columns.length ≤ mostColumns := by
      rw [columns_definitionOf, List.length_map]
      simpa [Declaration.isNarrow] using h
    have hexpressions : ((definitionOf t).columns.flatMap fun c =>
        c.constraints.flatMap (·.expressions)) = [] := by
      rw [columns_definitionOf, List.flatMap_eq_nil_iff]
      intro c hc
      obtain ⟨c, -, rfl⟩ := List.mem_map.1 hc
      rw [List.flatMap_eq_nil_iff]
      intro k hk
      rcases mem_plainConstraints hk with rfl | ⟨_, rfl⟩ <;> rfl
    have hconstraints : (definitionOf t).constraints = [] := rfl
    have hdefinition : (definitionOf t).isWithinLimits = true := by
      simp [TableDefinition.isWithinLimits, hlength, hexpressions, hconstraints, areShallow, greatestOf]
    rw [Declaration.statement, Statement.isWithinLimits, hdefinition]
    rfl
  | index i =>
    have hlength : (columnTerms i.columns).length ≤ mostColumns := by
      simpa [columnTerms, Declaration.isNarrow] using h
    have hshallow : ∀ columns : List String,
        greatestOf ((columnTerms columns).map (·.expr)) ≤ 1 := by
      intro columns
      induction columns with
      | nil => exact Nat.zero_le 1
      | cons c columns ih => exact Nat.max_le.2 ⟨Nat.le_refl 1, ih⟩
    have hterms : areShallow ((columnTerms i.columns).map (·.expr)) = true := by
      rw [areShallow, decide_eq_true_eq]
      exact Nat.le_trans (hshallow i.columns) (by decide)
    rw [Declaration.statement, Statement.isWithinLimits, hterms]
    simpa [parameterCount, Database.statementParameters] using hlength

/-- **A printed script keeps to the limits** if it is short and its declarations are narrow. -/
theorem keepsLimits_script {declarations : List Declaration}
    (hreadable : ∀ d ∈ declarations, d.isReadable = true)
    (hnarrow : ∀ d ∈ declarations, d.isNarrow = true)
    (hshort : (script declarations).utf8ByteSize ≤ longestText) :
    KeepsLimits (script declarations) := by
  refine ⟨hshort, ?_⟩
  have hgapped : ∀ p ∈ gapped declarations, p.2.isReadable = true := fun p hp =>
    hreadable p.2 (map_gapped declarations ▸ List.mem_map_of_mem hp)
  have hfuel : (gapped declarations).length ≤
      (gappedLexemes (gapped declarations) ++ scriptEnd).length + 1 := by
    have := length_le_gappedLexemes (gapped declarations)
    simp
    omega
  have hlex := lex_script hreadable
  rw [← scriptEnd] at hlex
  rw [hlex, readStatements_declared hgapped hfuel]
  intro s hs
  obtain ⟨p, hp, rfl⟩ := List.mem_map.1 hs
  exact isWithinLimits_statement
    (hnarrow p.2 (map_gapped declarations ▸ List.mem_map_of_mem hp))

/-- Every declaration of a script is read in it. -/
theorem isReadIn_declaration (hreadable : ∀ p ∈ ps, p.2.isReadable = true)
    {p : List Char × Declaration} (hp : p ∈ ps) : ∃ rest,
      Database.IsReadIn p.2.statement (p.2.lexemes p.1 ++ rest) rest
        (gappedLexemes ps ++ scriptEnd) := by
  induction ps with
  | nil => cases hp
  | cons q ps ih =>
    have hread : readStatement (q.2.lexemes q.1 ++ (gappedLexemes ps ++ scriptEnd)) =
        .ok (some (q.2.statement, gappedLexemes ps ++ scriptEnd)) :=
      readStatement_declaration (hreadable q List.mem_cons_self)
    rw [gappedLexemes_cons, List.append_assoc]
    rcases List.mem_cons.1 hp with rfl | hp
    · exact ⟨_, .first hread⟩
    · obtain ⟨rest, hrest⟩ := ih (fun r hr => hreadable r (List.mem_cons_of_mem q hr)) hp
      exact ⟨rest, .later hread hrest⟩

end Runs

end Tablewright.Catalog
