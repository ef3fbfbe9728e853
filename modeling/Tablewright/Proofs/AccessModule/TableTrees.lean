import Tablewright.AccessModule.TableSection
import Tablewright.Proofs.AccessModule.SourceParts

/-!
# The trees of a table's section

What the section of a table is read as, part by part: the struct of a role with the method that
lists its fields, and the functions that write and delete rows (`spells_tableSection`). The comments
of the section leave nothing behind, among them all that hold the name of the table.
-/

namespace Tablewright.AccessModule

open Block Naming

/-! ## Names -/

theorem isName_structName (role : Role) (t : Table) : IsName (structName role t).toList := by
  have hname := isNamePart_upperCamelChars t.name.toList
  rw [structName, String.toList_append, String.toList_append, upperCamelCase, String.toList_ofList]
  refine isName_append _ _ hname ?_ (by decide) ?_
  · cases role <;> decide
  · exact List.append_ne_nil_of_left_ne_nil
      (List.append_ne_nil_of_right_ne_nil _ (guardLeadingDigit_ne_nil _)) _

theorem isName_functionName (role : Role) (t : Table) : IsName (functionName role t).toList := by
  have hname := isNamePart_snakeChars t.name.toList
  have hempty : ([] : List Char).all isNamePart = true := rfl
  rw [functionName, String.toList_append, toList_snakeCase, ← List.append_nil (_ ++ _)]
  refine isName_append _ _ hname ?_ hempty ?_
  · cases role <;> decide
  · rw [List.append_nil]
    exact List.append_ne_nil_of_right_ne_nil _ (guardLeadingDigit_ne_nil _)

/-! ## Members -/

/-- The type of values. -/
def scalarTrees : MemberType → List Tree
  | .i64 => [.word "i64"]
  | .f64 => [.word "f64"]
  | .string => [.word "String"]
  | .bytes => [.word "Vec", .mark '<', .word "u8", .mark '>']

/-- The type of a member. -/
def typeTrees (type : MemberType) (isOptional : Bool) : List Tree :=
  if isOptional then
    ([.word "Option", .mark '<'] : List Tree) ++ scalarTrees type ++ ([.mark '>'] : List Tree)
  else scalarTrees type

theorem lexedBefore_spelling (type : MemberType) :
    LexedBefore type.spelling (flatten (scalarTrees type)) := by
  cases type with
  | i64 => exact lexed_word (by decide) rfl
  | f64 => exact lexed_word (by decide) rfl
  | string => exact lexed_word (by decide) rfl
  | bytes =>
    have hbytes : Lexed "Vec<u8>" [.word "Vec", .mark '<', .word "u8", .mark '>'] :=
      lexed_ofList (by decide) fun _ => rfl
    exact hbytes.before

theorem lexedBefore_type (type : MemberType) (isOptional : Bool) :
    LexedBefore (type.render isOptional) (flatten (typeTrees type isOptional)) := by
  have hopen : Lexed "Option<" [.word "Option", .mark '<'] := lexed_ofList (by decide) fun _ => rfl
  have hclose : Lexed ">" [.mark '>'] := lexed_ofList (by decide) fun _ => rfl
  have hends : EndsNames ">" := endsNames_ofList (by decide)
  rw [MemberType.render, typeTrees]
  cases isOptional with
  | false => exact lexedBefore_spelling type
  | true =>
    have hoption := (hopen.append_before (lexedBefore_spelling type)).append hclose hends
    simpa [Tree.tokens] using hoption.before

/-- The declaration of a member. -/
def memberTrees (m : Member) : List Tree :=
  ([.word "pub", .word m.identifier, .mark ':'] : List Tree) ++
    typeTrees m.type m.presence.isOptional

/-- The declarations of members. -/
def memberListTrees (ms : List Member) : List Tree :=
  ms.flatMap fun m => memberTrees m ++ [.mark ',']

theorem spells_members (ms : List Member) : Spells (ms.flatMap fun m => line m.declaration) []
    (flatten (memberListTrees ms)) := by
  have hpub : Lexed "pub " [.word "pub"] := lexed_ofList (by decide) fun _ => rfl
  have hcolon : Lexed ": " [.mark ':'] := lexed_ofList (by decide) fun _ => rfl
  have hends : EndsNames ": " := endsNames_ofList (by decide)
  rw [memberListTrees, flatten_flatMap]
  refine .flatMap fun m _ => .line ?_
  have hname := (isName_fieldIdentifier m.column.name).lexedBefore
  have hmember := (((hpub.append_before hname).append hcolon hends).append_before
    (lexedBefore_type m.type m.presence.isOptional)).append lexed_comma endsNames_comma
  simpa [Member.declaration, Member.identifier, memberTrees, Tree.tokens] using hmember.before

/-! ## Bound fields -/

/-- The member of the struct at hand. -/
def placeTrees (m : Member) : List Tree :=
  [.word "self", .mark '.', .word m.identifier]

/-- A place whose value is taken over. -/
def ownedTrees (m : Member) (place : List Tree) : List Tree :=
  if m.type.isCopy then place else place ++ [.mark '.', .word "clone", .group .round []]

/-- A pair of the column's name and a bound value. -/
def pairTree (m : Member) (value : List Tree) : Tree :=
  .group .round [.text m.column.name, .mark ',', .word "rt", .mark ':', .mark ':', .word "Value",
    .mark ':', .mark ':', .word "from", .group .round value]

theorem lexedBefore_place (m : Member) : LexedBefore m.place (flatten (placeTrees m)) := by
  have hself : Lexed "self." [.word "self", .mark '.'] := lexed_ofList (by decide) fun _ => rfl
  exact hself.append_before (isName_fieldIdentifier m.column.name).lexedBefore

theorem lexedBefore_owned (m : Member) {place : String} {ts : List Tree}
    (h : LexedBefore place (flatten ts)) :
    LexedBefore (m.owned place) (flatten (ownedTrees m ts)) := by
  have hclone : Lexed ".clone()" [.mark '.', .word "clone", .opening .round, .closing .round] :=
    lexed_ofList (by decide) fun _ => rfl
  have hends : EndsNames ".clone()" := endsNames_ofList (by decide)
  rw [Member.owned, ownedTrees]
  split
  · exact h
  · simpa [Tree.tokens] using (h.append hclone hends).before

theorem lexed_pair (m : Member) {value : String} {ts : List Tree}
    (h : LexedBefore value (flatten ts)) : Lexed (m.pair value) (flatten [pairTree m ts]) := by
  have hopen : Lexed "(" [.opening .round] := lexed_ofList (by decide) fun _ => rfl
  have hfrom : Lexed ", rt::Value::from(" [.mark ',', .word "rt", .mark ':', .mark ':',
      .word "Value", .mark ':', .mark ':', .word "from", .opening .round] :=
    lexed_ofList (by decide) fun _ => rfl
  have hclose : Lexed "))" [.closing .round, .closing .round] :=
    lexed_ofList (by decide) fun _ => rfl
  have hends : EndsNames "))" := endsNames_ofList (by decide)
  have hpair := (((hopen.append (lexed_quote m.column.name)).append hfrom).append_before h).append
    hclose hends
  simpa [Member.pair, pairTree, Tree.tokens] using hpair

/-- A pair is added to the fields. -/
def addTrees (m : Member) (value : List Tree) : List Tree :=
  [.word "fields", .mark '.', .word "push", .group .round [pairTree m value], .mark ';']

/-- The lines that bind a member. -/
def pushTrees (m : Member) : List Tree :=
  match m.presence with
  | .required _ => addTrees m (ownedTrees m (placeTrees m))
  | .omittable =>
    ([.word "if", .word "let", .word "Some", .group .round [.word "value"], .mark '='] :
        List Tree) ++
      (if m.type.isCopy then placeTrees m else .mark '&' :: placeTrees m) ++
      ([.group .curly (addTrees m (ownedTrees m [.word "value"]))] : List Tree)

theorem spells_add (m : Member) {value : String} {ts : List Tree}
    (h : LexedBefore value (flatten ts)) :
    (line ("fields.push(" ++ m.pair value ++ ");")).Spells [] (flatten (addTrees m ts)) := by
  have hpush : Lexed "fields.push(" [.word "fields", .mark '.', .word "push", .opening .round] :=
    lexed_ofList (by decide) fun _ => rfl
  have hend : Lexed ");" [.closing .round, .mark ';'] := lexed_ofList (by decide) fun _ => rfl
  have hadd := (hpush.append (lexed_pair m h)).append hend
  simpa [addTrees, Tree.tokens] using Spells.line hadd.before

theorem spells_push (m : Member) : m.push.Spells [] (flatten (pushTrees m)) := by
  cases hpresence : m.presence with
  | required nullable =>
    simp only [Member.push, pushTrees, hpresence]
    exact spells_add m (lexedBefore_owned m (lexedBefore_place m))
  | omittable =>
    simp only [Member.push, pushTrees, hpresence]
    have hlet : Lexed "if let Some(value) = " [.word "if", .word "let", .word "Some",
        .opening .round, .word "value", .closing .round, .mark '='] :=
      lexed_ofList (by decide) fun _ => rfl
    have hborrow : Lexed "&" [.mark '&'] := lexed_ofList (by decide) fun _ => rfl
    have hvalue : LexedBefore "value" (flatten [.word "value"]) :=
      lexed_word (by decide) rfl
    have hpattern : LexedBefore (if m.type.isCopy then m.place else "&" ++ m.place)
        (flatten (if m.type.isCopy then placeTrees m else .mark '&' :: placeTrees m)) := by
      split
      · exact lexedBefore_place m
      · exact hborrow.append_before (lexedBefore_place m)
    have hspells := Spells.wrap
      ((hlet.append_before hpattern).append lexed_opening endsNames_opening).before
      (spells_add m (lexedBefore_owned m hvalue)) lexed_curly.before
    simpa [Tree.tokens] using hspells

/-- The body of the method that lists the bound fields. -/
def fieldsTrees (ms : List Member) : List Tree :=
  if ms.all fun m => m.presence ≠ .omittable then
    [.word "vec", .mark '!', .group .square
      (ms.flatMap fun m => [pairTree m (ownedTrees m (placeTrees m))] ++ [.mark ','])]
  else
    ([.word "let", .word "mut", .word "fields", .mark '=', .word "rt", .mark ':', .mark ':',
      .word "Fields", .mark ':', .mark ':', .word "new", .group .round [], .mark ';'] :
        List Tree) ++
      ms.flatMap pushTrees ++ ([.word "fields"] : List Tree)

theorem spells_fieldsBody (ms : List Member) :
    (fieldsBody ms).Spells [] (flatten (fieldsTrees ms)) := by
  rw [fieldsBody, fieldsTrees]
  split
  · have hopen : Lexed "vec![" [.word "vec", .mark '!', .opening .square] :=
      lexed_ofList (by decide) fun _ => rfl
    have hclose : Lexed "]" [.closing .square] := lexed_ofList (by decide) fun _ => rfl
    have hpairs : Spells (ms.flatMap fun m => line (m.pair (m.owned m.place) ++ ",")) []
        (flatten (ms.flatMap fun m => [pairTree m (ownedTrees m (placeTrees m))] ++ [.mark ','])) := by
      rw [flatten_flatMap]
      refine .flatMap fun m _ => .line ?_
      rw [flatten_append]
      exact ((lexed_pair m (lexedBefore_owned m (lexedBefore_place m))).append lexed_comma).before
    simpa [Tree.tokens] using Spells.wrap hopen.before hpairs hclose.before
  · have hnew : Lexed "let mut fields = rt::Fields::new();" [.word "let", .word "mut",
        .word "fields", .mark '=', .word "rt", .mark ':', .mark ':', .word "Fields", .mark ':',
        .mark ':', .word "new", .opening .round, .closing .round, .mark ';'] :=
      lexed_ofList (by decide) fun _ => rfl
    have hfields : LexedBefore "fields" (flatten [.word "fields"]) :=
      lexed_word (by decide) rfl
    have hpushes : Spells (ms.flatMap Member.push) [] (flatten (ms.flatMap pushTrees)) := by
      rw [flatten_flatMap]
      exact .flatMap fun m _ => spells_push m
    have hspells := ((Spells.line hnew.before).append hpushes).append (Spells.line hfields)
    simpa [Tree.tokens] using hspells

/-! ## Parameter structs -/

/-- The method that lists the bound fields. -/
def methodTrees (ms : List Member) : List Tree :=
  [.word "pub", .word "fn", .word "fields", .group .round [.mark '&', .word "self"],
    .mark '-', .mark '>', .word "rt", .mark ':', .mark ':', .word "Fields",
    .group .curly (fieldsTrees ms)]

/-- A struct and its method, with what the brackets of its attribute hold. -/
def structTrees (derives : List Tree) (role : Role) (t : Table) : List Tree :=
  attributeTrees derives ++
    ([.word "pub", .word "struct", .word (structName role t),
      .group .curly (memberListTrees (members role t)),
    .word "impl", .word (structName role t), .group .curly (methodTrees (members role t))] :
      List Tree)

/-- The comments on a struct and its method. -/
def structRemarks (role : Role) (t : Table) : List String :=
  ["/// " ++ structDoc role t,
    "/// Column/value pairs for every bound column, in column order."]

theorem spells_paramsStruct {options : GeneratorOptions} {derives : List Tree}
    (hderives : Lexed options.deriveAttribute (flatten (attributeTrees derives))) (role : Role)
    (t : Table) : (paramsStruct role t options).Spells (structRemarks role t)
      (flatten (structTrees derives role t)) := by
  have hstruct : Lexed "pub struct " [.word "pub", .word "struct"] :=
    lexed_ofList (by decide) fun _ => rfl
  have himpl : Lexed "impl " [.word "impl"] := lexed_ofList (by decide) fun _ => rfl
  have hfields : Lexed "pub fn fields(&self) -> rt::Fields \x7b" [.word "pub", .word "fn",
      .word "fields", .opening .round, .mark '&', .word "self", .closing .round, .mark '-',
      .mark '>', .word "rt", .mark ':', .mark ':', .word "Fields", .opening .curly] :=
    lexed_ofList (by decide) fun _ => rfl
  have hdoc : isRemark ("/// " ++ structDoc role t) = true := isRemark_append (isRemark_ofList _) _
  have hfieldsDoc : isRemark "/// Column/value pairs for every bound column, in column order." = true :=
    isRemark_ofList _
  have hname := (isName_structName role t).lexedBefore
  have hopen := (hstruct.append_before hname).append lexed_opening endsNames_opening
  have himplOpen := (himpl.append_before hname).append lexed_opening endsNames_opening
  have hdeclared := ((Spells.remark hdoc).append (Spells.line hderives.before)).append
    (Spells.wrap hopen.before (spells_members (members role t)) lexed_curly.before)
  have hmethod := Spells.wrap himplOpen.before ((Spells.remark hfieldsDoc).append
    (Spells.wrap hfields.before (spells_fieldsBody (members role t)) lexed_curly.before))
    lexed_curly.before
  have hspells := Spells.separated_cons hdeclared (.separated_one hmethod)
  simpa [paramsStruct, structTrees, methodTrees, structRemarks, Tree.tokens] using hspells

/-! ## Functions -/

/-- The constant that holds the name of a table, as it is referred to. -/
def tablePathTrees (t : Table) : List Tree :=
  [.word "tables", .mark ':', .mark ':', .word (screamingSnakeCase t.name)]

theorem lexedBefore_tablePath (t : Table) :
    LexedBefore (tablePath t) (flatten (tablePathTrees t)) := by
  have htables : Lexed "tables::" [.word "tables", .mark ':', .mark ':'] :=
    lexed_ofList (by decide) fun _ => rfl
  exact htables.append_before (isName_screamingSnakeCase t.name).lexedBefore

/-- The parameters of a function, `rows` or `filter` with its type, and its result. -/
def parameterTrees (parameter : String) (type : List Tree) : List Tree :=
  [.mark '<', .word "D", .mark ':', .word "rt", .mark ':', .mark ':', .word "Datastore", .mark '>',
    .group .round (([.word "db", .mark ':', .mark '&', .word "D", .mark ',', .word parameter,
      .mark ':', .mark '&'] : List Tree) ++ type),
    .mark '-', .mark '>', .word "rt", .mark ':', .mark ':', .word "Result", .mark '<',
    .group .round [], .mark '>']

/-- The beginning of a function. -/
def signatureTrees (role : Role) (t : Table) (parameter : String) (type : List Tree) : List Tree :=
  ([.word "pub", .word "fn", .word (functionName role t)] : List Tree) ++
    parameterTrees parameter type

/-- The fields of all rows. -/
def rowsTrees (role : Role) (t : Table) : List Tree :=
  [.word "let", .word "rows", .mark ':', .word "Vec", .mark '<', .word "rt", .mark ':', .mark ':',
    .word "Fields", .mark '>', .mark '=', .word "rows", .mark '.', .word "iter", .group .round [],
    .mark '.', .word "map", .group .round [.word (structName role t), .mark ':', .mark ':',
      .word "fields"], .mark '.', .word "collect", .group .round [], .mark ';']

theorem spells_rows (role : Role) (t : Table) :
    (line ("let rows: Vec<rt::Fields> = rows.iter().map(" ++ structName role t ++
      "::fields).collect();")).Spells [] (flatten (rowsTrees role t)) := by
  have hrows : Lexed "let rows: Vec<rt::Fields> = rows.iter().map(" [.word "let", .word "rows",
      .mark ':', .word "Vec", .mark '<', .word "rt", .mark ':', .mark ':', .word "Fields",
      .mark '>', .mark '=', .word "rows", .mark '.', .word "iter", .opening .round,
      .closing .round, .mark '.', .word "map", .opening .round] :=
    lexed_ofList (by decide) fun _ => rfl
  have hcollect : Lexed "::fields).collect();" [.mark ':', .mark ':', .word "fields",
      .closing .round, .mark '.', .word "collect", .opening .round, .closing .round, .mark ';'] :=
    lexed_ofList (by decide) fun _ => rfl
  have hends : EndsNames "::fields).collect();" := endsNames_ofList (by decide)
  have hspells := (hrows.append_before (isName_structName role t).lexedBefore).append hcollect hends
  simpa [rowsTrees, Tree.tokens] using Spells.line hspells.before

/-- The statement for all rows. -/
def batchTrees (role : Role) (t : Table) : List Tree :=
  [.word "let", .group .round [.word "sql", .mark ',', .word "params"], .mark '=', .word "rt",
    .mark ':', .mark ':', .word "batch_statement", .group .round (
      ([.word "rt", .mark ':', .mark ':', .word "BatchVerb", .mark ':', .mark ':',
        .word role.typePrefix, .mark ','] : List Tree) ++ tablePathTrees t ++
      ([.mark ',', .mark '&', .group .square
        (commaTrees ((columnNames role t).map fun c => [.text c])), .mark ',',
        .mark '&', .word "rows", .mark ','] : List Tree)), .mark '?', .mark ';']

theorem spells_batch (role : Role) (t : Table) :
    (wrap "let (sql, params) = rt::batch_statement("
      (line ("rt::BatchVerb::" ++ role.typePrefix ++ ",") ++ line (tablePath t ++ ",") ++
        line ("&[" ++ String.intercalate ", " ((columnNames role t).map Text.quote) ++ "],") ++
        line "&rows,") ")?;").Spells [] (flatten (batchTrees role t)) := by
  have hcall : Lexed "let (sql, params) = rt::batch_statement(" [.word "let", .opening .round,
      .word "sql", .mark ',', .word "params", .closing .round, .mark '=', .word "rt", .mark ':',
      .mark ':', .word "batch_statement", .opening .round] :=
    lexed_ofList (by decide) fun _ => rfl
  have hend : Lexed ")?;" [.closing .round, .mark '?', .mark ';'] :=
    lexed_ofList (by decide) fun _ => rfl
  have hverb : Lexed "rt::BatchVerb::" [.word "rt", .mark ':', .mark ':', .word "BatchVerb",
      .mark ':', .mark ':'] :=
    lexed_ofList (by decide) fun _ => rfl
  have hrole : LexedBefore role.typePrefix (flatten [.word role.typePrefix]) := by
    cases role <;> exact lexed_word (by decide) rfl
  have hopen : Lexed "&[" [.mark '&', .opening .square] := lexed_ofList (by decide) fun _ => rfl
  have hclose : Lexed "]," [.closing .square, .mark ','] := lexed_ofList (by decide) fun _ => rfl
  have hends : EndsNames "]," := endsNames_ofList (by decide)
  have hrows : Lexed "&rows," [.mark '&', .word "rows", .mark ','] :=
    lexed_ofList (by decide) fun _ => rfl
  have hcolumns : LexedBefore (String.intercalate ", " ((columnNames role t).map Text.quote))
      (flatten (commaTrees ((columnNames role t).map fun c => [.text c]))) :=
    lexedBefore_intercalate fun c _ => (lexed_quote c).before
  have hverbLine := (hverb.append_before hrole).append lexed_comma endsNames_comma
  have hpathLine := (lexedBefore_tablePath t).append lexed_comma endsNames_comma
  have hcolumnsLine := (hopen.append_before hcolumns).append hclose hends
  have hspells := Spells.wrap hcall.before ((((Spells.line hverbLine.before).append
    (Spells.line hpathLine.before)).append (Spells.line hcolumnsLine.before)).append
    (Spells.line hrows.before)) hend.before
  simpa [batchTrees, tablePathTrees, Tree.tokens] using hspells

/-- How a function answers. -/
def okTrees : List Tree :=
  [.word "Ok", .group .round [.group .round []]]

theorem spells_ok : (line "Ok(())").Spells [] (flatten okTrees) := by
  have hok : Lexed "Ok(())" [.word "Ok", .opening .round, .opening .round, .closing .round,
      .closing .round] :=
    lexed_ofList (by decide) fun _ => rfl
  simpa [okTrees, Tree.tokens] using Spells.line hok.before

/-- What the function does that writes rows. -/
def writeBodyTrees (role : Role) (t : Table) : List Tree :=
  rowsTrees role t ++ batchTrees role t ++
    ([.word "db", .mark '.', .word "query", .group .round [.mark '&', .word "sql", .mark ',',
      .mark '&', .word "params"], .mark '?', .mark ';'] : List Tree) ++ okTrees

/-- The function that writes rows. -/
def writeTrees (role : Role) (t : Table) : List Tree :=
  signatureTrees role t "rows" [.group .square [.word (structName role t)]] ++
    ([.group .curly (writeBodyTrees role t)] : List Tree)

theorem spells_writeFunction (role : Role) (t : Table) :
    (writeFunction role t).Spells ["/// " ++ writeDoc role t] (flatten (writeTrees role t)) := by
  have hfn : Lexed "pub fn " [.word "pub", .word "fn"] := lexed_ofList (by decide) fun _ => rfl
  have hparameters : Lexed "<D: rt::Datastore>(db: &D, rows: &[" [.mark '<', .word "D", .mark ':',
      .word "rt", .mark ':', .mark ':', .word "Datastore", .mark '>', .opening .round, .word "db",
      .mark ':', .mark '&', .word "D", .mark ',', .word "rows", .mark ':', .mark '&',
      .opening .square] :=
    lexed_ofList (by decide) fun _ => rfl
  have hparametersEnds : EndsNames "<D: rt::Datastore>(db: &D, rows: &[" :=
    endsNames_ofList (by decide)
  have hresult : Lexed "]) -> rt::Result<()> \x7b" [.closing .square, .closing .round, .mark '-',
      .mark '>', .word "rt", .mark ':', .mark ':', .word "Result", .mark '<', .opening .round,
      .closing .round, .mark '>', .opening .curly] :=
    lexed_ofList (by decide) fun _ => rfl
  have hresultEnds : EndsNames "]) -> rt::Result<()> \x7b" := endsNames_ofList (by decide)
  have hquery : Lexed "db.query(&sql, &params)?;" [.word "db", .mark '.', .word "query",
      .opening .round, .mark '&', .word "sql", .mark ',', .mark '&', .word "params",
      .closing .round, .mark '?', .mark ';'] :=
    lexed_ofList (by decide) fun _ => rfl
  have hdoc : isRemark ("/// " ++ writeDoc role t) = true := isRemark_append (isRemark_ofList _) _
  have hheader := (((hfn.append_before (isName_functionName role t).lexedBefore).append hparameters
    hparametersEnds).append_before (isName_structName role t).lexedBefore).append hresult hresultEnds
  have hbody := (((spells_rows role t).append (spells_batch role t)).append
    (Spells.line hquery.before)).append spells_ok
  have hspells := (Spells.remark hdoc).append
    (Spells.wrap hheader.before hbody lexed_curly.before)
  simpa [writeFunction, writeTrees, writeBodyTrees, signatureTrees, parameterTrees,
    Tree.tokens] using hspells

/-- What the function does that deletes rows. -/
def deleteBodyTrees (t : Table) : List Tree :=
  ([.word "let", .word "fields", .mark '=', .word "filter", .mark '.', .word "fields",
    .group .round [], .mark ';',
    .word "let", .word "sql", .mark '=', .word "rt", .mark ':', .mark ':',
    .word "delete_statement", .group .round (tablePathTrees t ++
      ([.mark ',', .mark '&', .word "fields"] : List Tree)), .mark ';',
    .word "db", .mark '.', .word "query", .group .round [.mark '&', .word "sql", .mark ',',
      .mark '&', .word "rt", .mark ':', .mark ':', .word "named",
      .group .round [.word "fields"]], .mark '?', .mark ';'] : List Tree) ++ okTrees

/-- The function that deletes rows. -/
def deleteTrees (t : Table) : List Tree :=
  signatureTrees .delete t "filter" [.word (structName .delete t)] ++
    ([.group .curly (deleteBodyTrees t)] : List Tree)

/-- The comments on the function that deletes rows. -/
def deleteRemarks (t : Table) : List String :=
  ["/// Deletes the `" ++ t.name ++ "` rows matching every set field of `filter`.", "///",
    "/// A filter with no field set is rejected by the database."]

theorem spells_deleteFunction (t : Table) :
    (deleteFunction t).Spells (deleteRemarks t) (flatten (deleteTrees t)) := by
  have hfn : Lexed "pub fn " [.word "pub", .word "fn"] := lexed_ofList (by decide) fun _ => rfl
  have hparameters : Lexed "<D: rt::Datastore>(db: &D, filter: &" [.mark '<', .word "D", .mark ':',
      .word "rt", .mark ':', .mark ':', .word "Datastore", .mark '>', .opening .round, .word "db",
      .mark ':', .mark '&', .word "D", .mark ',', .word "filter", .mark ':', .mark '&'] :=
    lexed_ofList (by decide) fun _ => rfl
  have hparametersEnds : EndsNames "<D: rt::Datastore>(db: &D, filter: &" :=
    endsNames_ofList (by decide)
  have hresult : Lexed ") -> rt::Result<()> \x7b" [.closing .round, .mark '-', .mark '>',
      .word "rt", .mark ':', .mark ':', .word "Result", .mark '<', .opening .round,
      .closing .round, .mark '>', .opening .curly] :=
    lexed_ofList (by decide) fun _ => rfl
  have hresultEnds : EndsNames ") -> rt::Result<()> \x7b" := endsNames_ofList (by decide)
  have hfields : Lexed "let fields = filter.fields();" [.word "let", .word "fields", .mark '=',
      .word "filter", .mark '.', .word "fields", .opening .round, .closing .round, .mark ';'] :=
    lexed_ofList (by decide) fun _ => rfl
  have hcall : Lexed "let sql = rt::delete_statement(" [.word "let", .word "sql", .mark '=',
      .word "rt", .mark ':', .mark ':', .word "delete_statement", .opening .round] :=
    lexed_ofList (by decide) fun _ => rfl
  have hend : Lexed ", &fields);" [.mark ',', .mark '&', .word "fields", .closing .round,
      .mark ';'] :=
    lexed_ofList (by decide) fun _ => rfl
  have hends : EndsNames ", &fields);" := endsNames_ofList (by decide)
  have hquery : Lexed "db.query(&sql, &rt::named(fields))?;" [.word "db", .mark '.',
      .word "query", .opening .round, .mark '&', .word "sql", .mark ',', .mark '&', .word "rt",
      .mark ':', .mark ':', .word "named", .opening .round, .word "fields", .closing .round,
      .closing .round, .mark '?', .mark ';'] :=
    lexed_ofList (by decide) fun _ => rfl
  have hdoc : isRemark ("/// Deletes the `" ++ t.name ++
      "` rows matching every set field of `filter`.") = true :=
    isRemark_append (isRemark_append (isRemark_ofList _) _) _
  have hline : isRemark "///" = true := isRemark_ofList _
  have hnote : isRemark "/// A filter with no field set is rejected by the database." = true :=
    isRemark_ofList _
  have hheader := (((hfn.append_before (isName_functionName .delete t).lexedBefore).append
    hparameters hparametersEnds).append_before (isName_structName .delete t).lexedBefore).append
    hresult hresultEnds
  have hstatement := (hcall.append_before (lexedBefore_tablePath t)).append hend hends
  have hbody := (((Spells.line hfields.before).append (Spells.line hstatement.before)).append
    (Spells.line hquery.before)).append spells_ok
  have hspells := (((Spells.remark hdoc).append (Spells.remark hline)).append
    (Spells.remark hnote)).append (Spells.wrap hheader.before hbody lexed_curly.before)
  simpa [deleteFunction, deleteTrees, deleteBodyTrees, deleteRemarks, signatureTrees,
    parameterTrees, tablePathTrees, Tree.tokens] using hspells

/-! ## The section -/

/-- The section of a table. -/
def tableTrees (derives : List Tree) (t : Table) : List Tree :=
  structTrees derives .insert t ++ (writeTrees .insert t ++ (structTrees derives .replace t ++
    (writeTrees .replace t ++ (structTrees derives .delete t ++ deleteTrees t))))

/-- The comments of the section of a table. -/
def tableRemarks (t : Table) : List String :=
  ["// table: " ++ t.name] ++ (structRemarks .insert t ++ (["/// " ++ writeDoc .insert t] ++
    (structRemarks .replace t ++ (["/// " ++ writeDoc .replace t] ++
      (structRemarks .delete t ++ deleteRemarks t)))))

/-- **What the section of a table is read as.** -/
theorem spells_tableSection {options : GeneratorOptions} {derives : List Tree}
    (hderives : Lexed options.deriveAttribute (flatten (attributeTrees derives))) (t : Table) :
    (tableSection t options).Spells (tableRemarks t) (flatten (tableTrees derives t)) := by
  have htitle : isRemark ("// table: " ++ t.name) = true := isRemark_append (isRemark_ofList _) _
  have hstruct := spells_paramsStruct hderives
  have hsection := Spells.separated_cons (.remark htitle)
    (.separated_cons (hstruct .insert t) (.separated_cons (spells_writeFunction .insert t)
      (.separated_cons (hstruct .replace t) (.separated_cons (spells_writeFunction .replace t)
        (.separated_cons (hstruct .delete t) (.separated_one (spells_deleteFunction t)))))))
  simp only [tableTrees, flatten_append]
  exact hsection

end Tablewright.AccessModule
