import Tablewright.Proofs.Database.OneStatement
import Tablewright.Proofs.Statement.Batch

/-!
# Batches read back

The statement that writes a batch is read back as the write it is meant to be
(`isStatement_writtenStatement`): into the table, with the shared columns, and with the parameters of
each row in its own tuple. The table and the columns need names that stand without quotes and are
not reserved (`IsUsableName`).
-/

namespace Tablewright

open Sql Grammar

/-- A name that is written without quotes and is no keyword. -/
def IsUsableName (name : String) : Prop :=
  isPlainName name = true ∧ isReserved name = false

namespace Batch

/-- The names of the parameters in the tuple of a row, with their sigil. -/
def placeholders (listed : List String) (index : Nat) : List String :=
  listed.map fun c => ":" ++ parameterName index c

theorem all_isNameChar_parameterName (i : Nat) {c : String} (h : isPlainName c = true) :
    (parameterName i c).toList.all isNameChar = true := by
  have hdigits : (Nat.toDigits 10 i).all isNameChar = true := by
    refine List.all_eq_true.2 fun d hd => ?_
    rw [isNameChar, Nat.isDigit_of_mem_toDigits (by decide) (by decide) hd, Bool.or_true,
      Bool.true_or]
  rw [toList_parameterName, List.all_append, hdigits, List.all_cons,
    all_isNameChar_of_isPlainName h]
  rfl

theorem spells_placeholder (i : Nat) {c : String} (hc : isPlainName c = true) {rest : List Char}
    {ts : List Token} (hr : endsName rest = true) (h : Spells rest ts) :
    Spells ((":" ++ parameterName i c).toList ++ rest)
      (.parameter (":" ++ parameterName i c) :: ts) := by
  have := Spells.parameter (by simp [toList_parameterName]) (all_isNameChar_parameterName i hc) hr h
  simpa [String.toList_append] using this

/-- The tuple of a row as it is written. -/
def writtenTuple (listed : List String) (i : Nat) : String :=
  "(" ++ commaSeparated (placeholders listed i) ++ ")"

theorem spells_tuple {listed : List String} (hl : ∀ c ∈ listed, isPlainName c = true) (i : Nat)
    {rest : List Char} {ts : List Token} (h : Spells rest ts) :
    Spells ((writtenTuple listed i).toList ++ rest)
      (rowTokens ((placeholders listed i).map .parameter) ++ ts) := by
  have hlist : Spells (List.intercalate [',', ' ']
        (listed.map fun c => (":" ++ parameterName i c).toList) ++ ')' :: rest)
      (separated (listed.map fun c => [.parameter (":" ++ parameterName i c)]) ++
        .symbol ")" :: ts) :=
    Spells.separated (fun c hc rest ts hr h => spells_placeholder i (hl c hc) hr h) rfl
      (.mark rfl h)
  have htuple : Spells ('(' :: _) (.symbol "(" :: _) := Spells.mark rfl hlist
  simpa [writtenTuple, commaSeparated, placeholders, String.toList_intercalate, rowTokens,
    Function.comp_def] using htuple

/-- The statement that writes `n` rows with the given columns. -/
def writtenStatement (verb : WriteVerb) (table : String) (listed : List String) (n : Nat) :
    String :=
  writeHead verb table (commaSeparated listed) ++
    commaSeparated ((List.range n).map (writtenTuple listed))

/-- The beginning of a write, its table and its columns, is written by its tokens. -/
theorem spells_writeHead (verb : WriteVerb) {table : String} {listed : List String}
    (htable : isPlainName table = true) (hl : ∀ c ∈ listed, isPlainName c = true)
    {rest : List Char} {ts : List Token} (h : Spells rest ts) :
    Spells ((writeHead verb table (commaSeparated listed)).toList ++ rest)
      (.word verb.keyword :: .word "INTO" :: .word table ::
        (nameTokens listed ++ .word "VALUES" :: ts)) := by
  have hvalues : Spells (")".toList ++ _) (.symbol ")" :: .word "VALUES" :: ts) :=
    .mark rfl (.space (.word rfl rfl (.space h)))
  have hcolumns : Spells (List.intercalate [',', ' '] (listed.map (·.toList)) ++ _)
      (separated (listed.map fun c => [.word c]) ++ _) :=
    Spells.separated (fun c hc rest ts hr h => .word (hl c hc) hr h) rfl hvalues
  have hhead : Spells _ (.word verb.keyword :: .word "INTO" :: .word table :: .symbol "(" :: _) :=
    .word (by cases verb <;> rfl) rfl (.space (.word rfl rfl (.space (.word htable rfl
      (.space (.mark (c := '(') rfl hcolumns))))))
  simpa [writeHead, commaSeparated, String.toList_intercalate, nameTokens, Function.comp_def]
    using hhead

theorem spells_writtenStatement (verb : WriteVerb) {table : String} {listed : List String}
    (htable : isPlainName table = true) (hl : ∀ c ∈ listed, isPlainName c = true) (n : Nat) :
    Spells (writtenStatement verb table listed n).toList
      (writeTokens verb table listed
        ((List.range n).map fun i => (placeholders listed i).map .parameter)) := by
  have hrows : Spells (List.intercalate [',', ' ']
        ((List.range n).map fun i => (writtenTuple listed i).toList) ++ [])
      (separated ((List.range n).map fun i => rowTokens ((placeholders listed i).map .parameter)) ++
        [.finish]) :=
    Spells.separated (fun i _ rest ts _ h => spells_tuple hl i h) rfl (.finish rfl (by simp))
  have hstatement := spells_writeHead verb htable hl hrows
  simpa [writtenStatement, commaSeparated, String.toList_intercalate, writeTokens,
    Function.comp_def] using hstatement

/-- **A batch is read back as its write.** -/
theorem isStatement_writtenStatement (verb : WriteVerb) {table : String} {listed : List String}
    (htable : IsUsableName table) (hl : ∀ c ∈ listed, IsUsableName c) (hne : listed ≠ []) {n : Nat}
    (hn : 0 < n) :
    IsStatement (writtenStatement verb table listed n)
      (.write verb ⟨none, table⟩ (some listed)
        ((List.range n).map fun i => (placeholders listed i).map .parameter)) := by
  have hspells := spells_writtenStatement verb htable.1 (fun c hc => (hl c hc).1) n
  have hrows : (List.range n).map (fun i => (placeholders listed i).map Token.parameter) ≠ [] := by
    simpa using Nat.ne_of_gt hn
  have htakes := takes_statement verb htable.2 hne (fun c hc => (hl c hc).2) hrows
    (by simp [placeholders, hne]) (by simp [isValue])
  rw [List.map_map] at htakes
  simp only [Function.comp_def, List.map_map] at htakes
  exact isStatement_of_takes hspells.lex (by simp) (by simp) htakes

/-! ## Rows without columns -/

/-- The statement that writes `n` rows that supply no column, through the row id. -/
def writtenWithoutColumns (verb : WriteVerb) (table : String) (n : Nat) : String :=
  writeHead verb table "rowid" ++ commaSeparated (List.replicate n "(NULL)")

/-- **A batch of rows that supply no column is read back** as a write of NULL to their row ids. -/
theorem isStatement_writtenWithoutColumns (verb : WriteVerb) {table : String}
    (htable : IsUsableName table) {n : Nat} (hn : 0 < n) :
    IsStatement (writtenWithoutColumns verb table n)
      (.write verb ⟨none, table⟩ (some ["rowid"]) (List.replicate n [.literal .null])) := by
  have hrows : Spells (List.intercalate [',', ' ']
        ((List.replicate n ()).map fun _ => "(NULL)".toList) ++ [])
      (separated ((List.replicate n ()).map fun _ => rowTokens [.word "NULL"]) ++ [.finish]) := by
    refine Spells.separated (fun _ _ rest ts _ h => ?_) rfl (.finish rfl (by simp))
    have htuple : Spells ('(' :: ("NULL".toList ++ ')' :: rest))
        (.symbol "(" :: .word "NULL" :: .symbol ")" :: ts) :=
      .mark rfl (.word rfl rfl (.mark rfl h))
    exact htuple
  have hhead : Spells ((writeHead verb table (commaSeparated ["rowid"])).toList ++ _) _ :=
    spells_writeHead verb htable.1 (by decide) hrows
  have hspells : Spells (writtenWithoutColumns verb table n).toList
      (writeTokens verb table ["rowid"] (List.replicate n [.word "NULL"])) := by
    simpa [writtenWithoutColumns, commaSeparated, String.toList_intercalate, writeTokens] using hhead
  have hrowid : ∀ c ∈ ["rowid"], isReserved c = false := by decide
  have hsome : List.replicate n [Token.word "NULL"] ≠ [] := by simpa using Nat.ne_of_gt hn
  have htakes := takes_statement verb htable.2 (by simp) hrowid hsome (by simp) (by simp [isValue])
  rw [List.map_replicate] at htakes
  exact isStatement_of_takes hspells.lex (by simp) (by simp) htakes

end Batch

end Tablewright
