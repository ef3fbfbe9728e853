import Tablewright.Proofs.AccessModule.ConstantPaths
import Tablewright.Proofs.AccessModule.FieldsMethod
import Tablewright.Proofs.Session.Effects

/-!
# Functions that write rows

A function that writes rows is read off a generated module: the struct that it takes, its verb, and
the list of columns that it hands to the runtime library (`writeFunction?`). What it does in a session
is to list the fields of all rows by the method of the struct, and to write them as one batch
(`WriteFunction.run?`).

The method and the list of columns are emitted apart from each other. They fit together
(`fields_fit_statements`): a batch of rows to insert always has a statement unless it is empty, and one
of rows to replace has one if the rows set the same members, which then binds the whole key.
-/

namespace Tablewright.AccessModule

open Naming Batch Session

/-! ## Reading functions -/

/-- A function that writes rows. -/
structure WriteFunction where
  /-- The struct of a row. -/
  rowType : String
  verb : WriteVerb
  /-- The path of the constant that holds the name of the table. -/
  table : List String
  columns : List String
  deriving DecidableEq, Repr

namespace WriteFunction

/-- The parameters and the result of a function that takes rows of a struct. -/
def signature (rowType : String) : List Token :=
  [.mark '<', .word "D", .mark ':', .word "rt", .mark ':', .mark ':', .word "Datastore", .mark '>',
    .opening .round, .word "db", .mark ':', .mark '&', .word "D", .mark ',', .word "rows",
    .mark ':', .mark '&', .opening .square, .word rowType, .closing .square, .closing .round,
    .mark '-', .mark '>', .word "rt", .mark ':', .mark ':', .word "Result", .mark '<',
    .opening .round, .closing .round, .mark '>']

/-- The statement that lists the fields of all rows. -/
def listing (rowType : String) : List Token :=
  [.word "let", .word "rows", .mark ':', .word "Vec", .mark '<', .word "rt", .mark ':', .mark ':',
    .word "Fields", .mark '>', .mark '=', .word "rows", .mark '.', .word "iter", .opening .round,
    .closing .round, .mark '.', .word "map", .opening .round, .word rowType, .mark ':', .mark ':',
    .word "fields", .closing .round, .mark '.', .word "collect", .opening .round, .closing .round]

/-- The statement that runs what was built. -/
def querying : List Token :=
  [.word "db", .mark '.', .word "query", .opening .round, .mark '&', .word "sql", .mark ',',
    .mark '&', .word "params", .closing .round, .mark '?']

def answering : List Token :=
  [.word "Ok", .opening .round, .opening .round, .closing .round, .closing .round]

/-- The struct whose fields are listed. -/
def readListing? (head : List Tree) : Option String :=
  match callArguments? "map" head with
  | some [.word rowType :: _] => if flatten head = listing rowType then some rowType else none
  | _ => none

/-- The arguments for the statement of a batch, which is built or fails. -/
def readBatch? : List Tree → Option (List (List Tree))
  | .word l :: .group .round pattern :: .mark c :: call =>
    if l = "let" ∧ flatten pattern = [.word "sql", .mark ',', .word "params"] ∧ c = '=' ∧
        call.getLast?.any (Tree.isMark '?') then
      (FieldsMethod.handedTo? ["rt", "batch_statement"] call.dropLast).map parts
    else none
  | _ => none

def readVerb? (ts : List Tree) : Option WriteVerb :=
  match readPath? ts with
  | some path =>
    if path = ["rt", "BatchVerb", "Insert"] then some .insert
    else if path = ["rt", "BatchVerb", "Replace"] then some .replace
    else none
  | none => none

/-- The texts of a list that is handed over by reference. -/
def readColumns? : List Tree → Option (List String)
  | [.mark c, .group .square inner] =>
    if c = '&' then (parts inner).mapM fun part => literal? [part] else none
  | _ => none

/-- The function that hands the arguments over for rows of a struct. -/
def ofArguments? (rowType : String) : List (List Tree) → Option WriteFunction
  | [verb, table, columns, rows] =>
    if flatten rows = [.mark '&', .word "rows"] then do
      let verb ← readVerb? verb
      let table ← readPath? table
      let columns ← readColumns? columns
      return ⟨rowType, verb, table, columns⟩
    else none
  | _ => none

/-- What a function does: four statements. -/
def readBody? (body : List Tree) : Option WriteFunction :=
  match items (body ++ [.mark ';']) with
  | [rows, batch, query, answer] =>
    if flatten query.head = querying ∧ flatten answer.head = answering then
      (readListing? rows.head).bind fun rowType =>
        (readBatch? batch.head).bind (ofArguments? rowType)
    else none
  | _ => none

end WriteFunction

/-- The only function of a name, if it writes rows. -/
def writeFunction? (name : String) (root : List Tree) : Option WriteFunction :=
  match named "fn" name root with
  | [(signature, body)] =>
    (WriteFunction.readBody? body).filter fun f => flatten signature = WriteFunction.signature f.rowType
  | _ => none

/-- What a function does with rows, given by what their members hold, where the constant of the table
holds its name. -/
def WriteFunction.run? (f : WriteFunction) (root : List Tree) (table : String) (rows : List Held) :
    Option (SessionM Unit) :=
  (parameterStruct? f.rowType root).bind fun S =>
    (rows.mapM S.fields?).map fun fields => Session.write f.verb table f.columns fields

/-! ## The functions of a generated module -/

namespace WriteFunction

/-- The function of a table and a verb. -/
def ofTable (verb : WriteVerb) (t : Table) : WriteFunction :=
  ⟨structName (writeRole verb) t, verb, tablePathNames t, columnNames (writeRole verb) t⟩

theorem readColumns?_columns (names : List String) : readColumns? [.mark '&', .group .square
    (commaTrees (names.map fun c => [.text c]))] = some names := by
  have hparts := parts_commaTrees (l := names) (f := fun c => [.text c]) fun _ _ =>
    ⟨List.cons_ne_nil _ _, rfl⟩
  have hread := mapM_eq_some (f := fun c => literal? [[.text c]]) (g := id) (l := names) fun _ _ => rfl
  rw [readColumns?, if_pos rfl, hparts, List.mapM_map]
  rwa [List.map_id] at hread

/-- What is handed over for the statement of a batch. -/
def argumentTrees (verb : WriteVerb) (t : Table) : List (List Tree) :=
  [[.word "rt", .mark ':', .mark ':', .word "BatchVerb", .mark ':', .mark ':',
      .word (writeRole verb).typePrefix],
    tablePathTrees t,
    [.mark '&', .group .square
      (commaTrees ((columnNames (writeRole verb) t).map fun c => [.text c]))],
    [.mark '&', .word "rows"]]

theorem ofArguments?_argumentTrees (verb : WriteVerb) (t : Table) (rowType : String) :
    ofArguments? rowType (argumentTrees verb t) =
      some ⟨rowType, verb, tablePathNames t, columnNames (writeRole verb) t⟩ := by
  have hverb : readVerb? [.word "rt", .mark ':', .mark ':', .word "BatchVerb", .mark ':',
      .mark ':', .word (writeRole verb).typePrefix] = some verb := by
    cases verb <;> rfl
  have htable : readPath? (tablePathTrees t) = some (tablePathNames t) := rfl
  have hrows : flatten [.mark '&', .word "rows"] = [.mark '&', .word "rows"] := rfl
  rw [argumentTrees, ofArguments?, if_pos hrows, hverb, htable, readColumns?_columns]
  rfl

theorem items_writeBodyTrees (role : Role) (t : Table) :
    items (writeBodyTrees role t ++ [.mark ';']) =
      [⟨(rowsTrees role t).dropLast, []⟩, ⟨(batchTrees role t).dropLast, []⟩,
        ⟨[.word "db", .mark '.', .word "query", .group .round [.mark '&', .word "sql", .mark ',',
          .mark '&', .word "params"], .mark '?'], []⟩,
        ⟨okTrees, []⟩] :=
  rfl

theorem readBody?_writeBodyTrees (verb : WriteVerb) (t : Table) :
    readBody? (writeBodyTrees (writeRole verb) t) = some (ofTable verb t) := by
  have hlisting : readListing? (rowsTrees (writeRole verb) t).dropLast =
      some (structName (writeRole verb) t) := by
    have hstatement : flatten (rowsTrees (writeRole verb) t).dropLast =
        listing (structName (writeRole verb) t) := rfl
    have hmap : callArguments? "map" (rowsTrees (writeRole verb) t).dropLast =
        some [[.word (structName (writeRole verb) t), .mark ':', .mark ':', .word "fields"]] := rfl
    rw [readListing?, hmap]
    exact if_pos hstatement
  have hbatch : readBatch? (batchTrees (writeRole verb) t).dropLast = some (argumentTrees verb t) :=
    rfl
  rw [readBody?, items_writeBodyTrees]
  simp only [hlisting, hbatch]
  rw [if_pos ⟨rfl, rfl⟩, Option.bind_some, Option.bind_some, ofArguments?_argumentTrees]
  rfl

end WriteFunction

theorem writeFunction?_moduleTrees {path : List Tree} (hpath : ∀ t ∈ path, IsPathPart t)
    (derives : List Tree) {tables : List Table} (script : String) (h : ItemsDistinct tables)
    {t : Table} (ht : t ∈ tables) (verb : WriteVerb) :
    writeFunction? (functionName (writeRole verb) t) (moduleTrees path derives tables script) =
      some (.ofTable verb t) := by
  have hbody : functionBody (writeRole verb) t = writeBodyTrees (writeRole verb) t := by
    cases verb <;> rfl
  have hsignature : flatten (functionParameters (writeRole verb) t) =
      WriteFunction.signature (structName (writeRole verb) t) := by
    cases verb <;> rfl
  rw [writeFunction?, named_function hpath derives script h ht]
  simp only [hbody, WriteFunction.readBody?_writeBodyTrees]
  exact Option.filter_eq_some_iff.2 ⟨rfl, decide_eq_true hsignature⟩

/-! ## Batches of structs -/

/-- Rows that the struct of a role admits. -/
def AreAdmitted (root : List Tree) (role : Role) (t : Table) (rows : List Held) : Prop :=
  ∃ S, parameterStruct? (structName role t) root = some S ∧ ∀ held ∈ rows, S.Admits held

/-- What the function of a verb does with rows. -/
def writes? (root : List Tree) (verb : WriteVerb) (t : Table) (rows : List Held) :
    Option (SessionM Unit) :=
  (writeFunction? (functionName (writeRole verb) t) root).bind fun f => f.run? root t.name rows

/-- What members hold, by the names of their columns. -/
def Held.byColumn (held : Held) : Members :=
  fun c => held (fieldIdentifier c)

/-- The members of the key are never absent. -/
theorem isSome_key_of_admits {t : Table} {held : Held} (h : (roleStruct .replace t).Admits held)
    {c : Column} (hc : c ∈ t.columns) (hkey : c.isPrimaryKey = true) :
    ∃ v, held.byColumn c.name = some v := by
  have hmember : (⟨c, .required false⟩ : Member) ∈ members .replace t :=
    List.mem_map.2 ⟨c, hc, by rw [if_pos hkey]⟩
  have hadmits := h _ (List.mem_map.2 ⟨_, hmember, rfl⟩)
  rw [Member.declared_name] at hadmits
  have hthere := FieldsMethod.isSome_of_admits hadmits
  exact Option.isSome_iff_exists.1 ((Bool.false_or _).symm.trans hthere)

/-- What stands for an item by its number alone is up to the number of items. -/
theorem mapIdx_map {α β γ : Type} (g : α → β) (f : Nat → γ) (l : List α) :
    (l.map g).mapIdx (fun i _ => f i) = l.mapIdx fun i _ => f i :=
  List.ext_getElem (by simp) fun i _ _ => by simp

/-- **Rows to replace are mismatched exactly if two of them set different members** outside of the
key. -/
theorem exists_mismatched_replace_iff {t : Table} (distinct : (t.columns.map (·.name)).Nodup)
    {columns : List String} {rows : List Members}
    (fits : ∀ row ∈ rows, (boundFields .replace t row).FitsInto columns) :
    (∃ index expected found,
      statement .replace t.name columns (rows.map (boundFields .replace t)) =
        .error (.mismatched t.name index expected found)) ↔
      ∃ a ∈ rows, ∃ b ∈ rows, ∃ c ∈ t.columns, c.isPrimaryKey = false ∧
        (a c.name).isSome ≠ (b c.name).isSome := by
  have hdiffers (a b : Members) :
      ¬(boundFields .replace t a).SameColumns (boundFields .replace t b) ↔
        ∃ c ∈ t.columns, c.isPrimaryKey = false ∧ (a c.name).isSome ≠ (b c.name).isSome := by
    rw [sameColumns_replace_iff distinct]
    simp only [not_forall, exists_prop]
  rw [exists_mismatched_iff .replace (List.forall_mem_map.2 fits)]
  simp only [List.mem_map, exists_exists_and_eq_and, hdiffers]

/-- **A batch of rows to replace binds the whole key.** -/
theorem binds_key_of_statement {t : Table} (distinct : (t.columns.map (·.name)).Nodup)
    {columns : List String} {rows : List Members} {text : String} {bound : Parameters}
    (fits : ∀ row ∈ rows, (boundFields .replace t row).FitsInto columns)
    (h : statement .replace t.name columns (rows.map (boundFields .replace t)) = .ok (text, bound))
    {c : Column} (hc : c ∈ t.columns) (hkey : c.isPrimaryKey = true) :
    ∃ listed,
      text = writeHead .replace t.name (commaSeparated listed) ++ commaSeparated (rows.mapIdx fun i _ =>
        "(" ++ commaSeparated (listed.map fun c => ":" ++ parameterName i c) ++ ")") ∧
      c.name ∈ listed ∧
      ∀ i row, rows[i]? = some row → ∀ v, row c.name = some v →
        bound.filter (fun p => p.1 = parameterName i c.name) = [(parameterName i c.name, v)] := by
  have hbinds (row : Members) : binds .replace row c = true := Bool.or_eq_true_iff.2 (.inl hkey)
  obtain ⟨listed, htext, hlisted, hvalue⟩ := exists_listed_of_statement_eq_ok
    (fun row hrow => by
      obtain ⟨value, hvalue, rfl⟩ := List.mem_map.1 hrow
      exact fits value hvalue) h
    (c := c.name) (fun row hrow => by
      obtain ⟨value, -, rfl⟩ := List.mem_map.1 hrow
      exact (mem_names_boundFields distinct value hc).2 (hbinds value))
  refine ⟨listed, ?_, hlisted, fun i row hi v hv => ?_⟩
  · rw [htext, mapIdx_map]
  · refine hvalue i _ (by rw [List.getElem?_map, hi]; rfl) v ?_
    rw [boundFields_columns]
    refine List.mem_map.2 ⟨c, List.mem_filter.2 ⟨hc, hbinds row⟩, ?_⟩
    rw [hv, Option.getD_some]

/-- The structs of a table, their methods and the functions that write rows fit together. -/
structure FitsTogether (root : List Tree) (t : Table) : Prop where
  /-- No two columns have one name. -/
  distinct : (t.columns.map (·.name)).Nodup
  /-- A struct has the members of its role, and its method lists the columns that the role binds, in
  the order of the table. -/
  fields : ∀ role, ∃ S, parameterStruct? (structName role t) root = some S ∧
    S.members = (members role t).map Member.declared ∧
    ∀ held, S.Admits held → S.fields? held =
      some ((t.columns.filter (binds role held.byColumn)).map fun c =>
        (c.name, (held.byColumn c.name).getD .null))
  /-- A function hands over a list of columns that has all the method can list, in that order. -/
  columns : ∀ verb, ∃ f S, writeFunction? (functionName (writeRole verb) t) root = some f ∧
    parameterStruct? (structName (writeRole verb) t) root = some S ∧
    f.rowType = structName (writeRole verb) t ∧ f.verb = verb ∧ f.table = tablePathNames t ∧
    ∀ held fields, S.Admits held → S.fields? held = some fields → fields.names.Sublist f.columns
  /-- Rows to insert have a statement unless there are none. -/
  insert : ∀ rows, AreAdmitted root .insert t rows →
    ∃ operation, writes? root .insert t rows = some operation ∧
      ∀ s e, resultBy operation s = .error (.batch e) ↔ rows = [] ∧ e = .empty t.name
  /-- Rows to replace are refused as a batch if two set different members outside of the key; all
  values of the key are bound. -/
  replace : ∀ rows, AreAdmitted root .replace t rows →
    ∃ operation, writes? root .replace t rows = some operation ∧
      (∀ s, (∃ index expected found, resultBy operation s =
          .error (.batch (.mismatched t.name index expected found))) ↔
        ∃ a ∈ rows, ∃ b ∈ rows, ∃ c ∈ t.columns, c.isPrimaryKey = false ∧
          (a.byColumn c.name).isSome ≠ (b.byColumn c.name).isSome) ∧
      ∀ s text bound,
        (leftBy operation s).journal = s.journal ++ [.statement text (some bound)] →
        ∀ c ∈ t.columns, c.isPrimaryKey = true → ∃ listed,
          text = writeHead .replace t.name (commaSeparated listed) ++
            commaSeparated (rows.mapIdx fun i _ =>
              "(" ++ commaSeparated (listed.map fun c => ":" ++ parameterName i c) ++ ")") ∧
          c.name ∈ listed ∧
          ∀ i row, rows[i]? = some row → ∃ v, row.byColumn c.name = some v ∧
            bound.filter (fun p => p.1 = parameterName i c.name) = [(parameterName i c.name, v)]

section Module

variable {path : List Tree} (hpath : ∀ t ∈ path, IsPathPart t) (derives : List Tree)
  {tables : List Table} (script : String) (h : ItemsDistinct tables) {t : Table} (ht : t ∈ tables)

include hpath h ht

/-- The function of a verb writes what the structs bind. -/
theorem writes?_moduleTrees (verb : WriteVerb) {rows : List Held}
    (hrows : ∀ held ∈ rows, (roleStruct (writeRole verb) t).Admits held) :
    writes? (moduleTrees path derives tables script) verb t rows =
      some (write verb t.name (columnNames (writeRole verb) t)
        ((rows.map Held.byColumn).map (boundFields (writeRole verb) t))) := by
  have hfields : rows.mapM (roleStruct (writeRole verb) t).fields? =
      some (rows.map fun held => boundFields (writeRole verb) t held.byColumn) :=
    mapM_eq_some fun held hheld => fields?_roleStruct (h.members t ht _) (hrows held hheld)
  rw [writes?, writeFunction?_moduleTrees hpath derives script h ht, Option.bind_some,
    WriteFunction.run?, WriteFunction.ofTable,
    parameterStruct?_moduleTrees hpath derives script h ht, Option.bind_some, hfields, List.map_map]
  rfl

theorem admits_of_areAdmitted {role : Role} {rows : List Held}
    (hrows : AreAdmitted (moduleTrees path derives tables script) role t rows) :
    ∀ held ∈ rows, (roleStruct role t).Admits held := by
  obtain ⟨S, hS, hadmits⟩ := hrows
  rw [parameterStruct?_moduleTrees hpath derives script h ht] at hS
  cases hS
  exact hadmits

theorem fitsTogether_moduleTrees (hdistinct : (t.columns.map (·.name)).Nodup) :
    FitsTogether (moduleTrees path derives tables script) t := by
  have hnames (role : Role) : (columnNames role t).Nodup := by
    have hsublist := (columns_members_sublist role t).map (·.name)
    rw [List.map_map] at hsublist
    exact hsublist.nodup hdistinct
  have hstruct (role : Role) := parameterStruct?_moduleTrees hpath derives script h ht role
  have hlisted (role : Role) (held : Held) (hheld : (roleStruct role t).Admits held) :
      (roleStruct role t).fields? held = some (boundFields role t held.byColumn) :=
    fields?_roleStruct (h.members t ht role) hheld
  refine ⟨hdistinct, fun role => ⟨_, hstruct role, rfl, fun held hheld => ?_⟩, fun verb => ?_,
    fun rows hrows => ?_, fun rows hrows => ?_⟩
  · rw [hlisted role held hheld, boundFields_columns]
  · refine ⟨_, _, writeFunction?_moduleTrees hpath derives script h ht verb, hstruct _, rfl, rfl, rfl,
      fun held fields hheld hfields => ?_⟩
    rw [hlisted _ held hheld] at hfields
    cases hfields
    exact names_boundFields_sublist _ t _
  · refine ⟨_, writes?_moduleTrees hpath derives script h ht .insert
      (admits_of_areAdmitted hpath derives script h ht hrows), fun s e => ?_⟩
    rw [resultBy_write_eq_batch_iff]
    exact (statement_insert_eq_error_iff (hnames .insert) t.name _ e).trans
      (and_congr_left fun _ => List.map_eq_nil_iff)
  · have hadmits := admits_of_areAdmitted hpath derives script h ht hrows
    have hfits : ∀ row ∈ rows.map Held.byColumn,
        (boundFields .replace t row).FitsInto (columnNames .replace t) :=
      fun row _ => fits_boundFields (hnames .replace) row
    refine ⟨_, writes?_moduleTrees hpath derives script h ht .replace hadmits, fun s => ?_,
      fun s text bound hjournal c hc hkey => ?_⟩
    · simp only [resultBy_write_eq_batch_iff]
      refine (exists_mismatched_replace_iff hdistinct hfits).trans ?_
      simp only [List.mem_map, exists_exists_and_eq_and]
    · obtain ⟨listed, htext, hmem, hvalue⟩ := binds_key_of_statement hdistinct hfits
        ((journal_leftBy_write_iff s).1 hjournal) hc hkey
      rw [mapIdx_map] at htext
      refine ⟨listed, htext, hmem, fun i row hi => ?_⟩
      obtain ⟨v, hv⟩ := isSome_key_of_admits (hadmits row (List.mem_of_getElem? hi)) hc hkey
      exact ⟨v, hv, hvalue i row.byColumn (by rw [List.getElem?_map, hi]; rfl) v hv⟩

end Module

/-- **The structs of a generated module and the functions that take them fit together**, for every
table. -/
theorem fields_fit_statements {tables : List Table} {script : String} {options : GeneratorOptions}
    {m : AccessModule} (h : generate tables script options = .ok m) :
    ∃ root, (moduleBlock tables script options).trees? = some root ∧
      ((∀ t ∈ tables, KeepsToComments t.name) → readSource m.render = some root) ∧
      ∀ t ∈ tables, FitsTogether root t := by
  obtain ⟨-, hcheck, -⟩ := generate_eq_ok_iff.1 h
  have hdistinct := distinct_of_checkCollisions hcheck
  obtain ⟨path, derives, hpath, hblock, -, hread⟩ := exists_moduleTrees h
  refine ⟨_, hblock, hread, fun t ht => ?_⟩
  have hfields := hdistinct.fields t ht
  rw [← Function.comp_def, ← List.map_map] at hfields
  exact fitsTogether_moduleTrees hpath derives script hdistinct.items ht (hfields.of_map _)

/-- A table with two columns for its key, one of them assigned by the database, and columns of all
types, whose names are keywords or hold quotes. -/
def mixedTable : Table :=
  ⟨"order items", [.declare "id" .integer true true true, .declare "type" .text true true false,
    .declare "say \"hi\"" .blob false false false, .declare "price" .numeric true false false]⟩

/-- What the members of a row to replace hold. -/
def pricedRow : Held :=
  fun name =>
    if name = "id" then some (.integer 7)
    else if name = "r#type" then some (.text "book")
    else if name = "price" then some (.real ⟨0x3FF8000000000000⟩)
    else none

theorem fields_fit_statements_of_mixedTable :
    ∃ m root S, generate [mixedTable] "" {} = .ok m ∧ readSource m.render = some root ∧
      parameterStruct? "ReplaceOrderItemsParams" root = some S ∧ S.Admits pricedRow ∧
      S.fields? pricedRow = some [("id", .integer 7), ("type", .text "book"),
        ("price", .real ⟨0x3FF8000000000000⟩)] := by
  have h : generate [mixedTable] "" {} = .ok (ofTables [mixedTable] "" {}) :=
    generate_eq_ok_iff.2 ⟨by decide, by decide, rfl⟩
  obtain ⟨root, -, hread, hfits⟩ := fields_fit_statements h
  have hcomments : ∀ t ∈ [mixedTable], KeepsToComments t.name := by
    have hline : '\n' ∉ mixedTable.name.toList := by decide
    intro t ht
    rw [List.mem_singleton.1 ht]
    exact OnOneLine.keepsToComments hline
  obtain ⟨S, hS, hmembers, hfields⟩ := (hfits mixedTable List.mem_cons_self).fields .replace
  have hname : structName .replace mixedTable = "ReplaceOrderItemsParams" := by decide
  rw [hname] at hS
  have hadmits : S.Admits pricedRow := by
    have hall : ∀ d ∈ (members .replace mixedTable).map Member.declared,
        d.Admits (pricedRow d.name) := by
      decide
    rwa [ParameterStruct.Admits, hmembers]
  refine ⟨_, root, S, h, hread hcomments, hS, hadmits, (hfields _ hadmits).trans ?_⟩
  decide

end Tablewright.AccessModule
