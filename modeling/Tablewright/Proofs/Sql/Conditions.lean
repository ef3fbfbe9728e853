import Tablewright.Proofs.Sql.Reading

/-!
# Reading columns and conditions

The expression that a plain name is read as (`takes_columnName`), and the conjunction of equations
between columns and parameters of the same name (`takes_conjunction`). Some names that are not
reserved mean something else as an operand (`isOperandWord`).
-/

namespace Tablewright.Sql.Grammar

variable {ts : List Token} {t : Token}

/-! ## Names as operands -/

theorem toLower_toUpper_ascii : ∀ n : Fin 128,
    (Char.ofNat n).toUpper.toLower = (Char.ofNat n).toLower := by
  decide

theorem toLower_toUpper (c : Char) : c.toUpper.toLower = c.toLower := by
  by_cases h : c.toNat < 128
  · have hascii := toLower_toUpper_ascii ⟨c.toNat, h⟩
    rwa [Char.ofNat_toNat] at hascii
  · have hupper : c.toUpper = c := by
      refine dif_neg fun hc => h ?_
      have : c.toNat ≤ 122 := UInt32.le_iff_toNat_le.1 hc.2
      omega
    rw [hupper]

theorem lowerAscii_upperAscii (s : String) :
    Text.lowerAscii (Text.upperAscii s) = Text.lowerAscii s := by
  simp only [← String.toList_inj, Text.lowerAscii, Text.upperAscii, String.toList_map, List.map_map,
    Function.comp_def, toLower_toUpper]

/-- A word is reserved if its upper case is. -/
theorem isReserved_of_upperAscii {w : String} {k : String} (hw : Text.upperAscii w = k)
    (hk : k ∈ reservedWords) : isReserved w = true := by
  refine List.any_eq_true.2 ⟨k, hk, Text.sameName_iff.2 ?_⟩
  rw [← hw, lowerAscii_upperAscii]

theorem takes_column {fuel : Nat} {w : String} (h : isReserved w = false) (hp : t ≠ .symbol "(")
    (hd : t ≠ .symbol ".") :
    Takes (column (fuel + 1)) (.word w :: t :: ts) (.name none w false) (t :: ts) := by
  rw [column]
  refine takes_peek.bind ((takes_name h).bind ?_)
  refine (takes_acceptSymbol_none hp).bind ((takes_acceptSymbol_none hd).bind ?_)
  exact takes_pure _

theorem takes_operand_word {fuel : Nat} {w : String} (h : isReserved w = false)
    (hword : isOperandWord w = false) (hp : t ≠ .symbol "(") (hd : t ≠ .symbol ".") :
    Takes (operand (fuel + 2)) (.word w :: t :: ts) (.name none w false) (t :: ts) := by
  rw [operand]
  refine takes_peek.bind (takes_get fun lexemes hl => ?_)
  have hcolumn : Takes (column (fuel + 1)) (.word w :: t :: ts) (.name none w false) (t :: ts) :=
    takes_column h hp hd
  have hreserved : ∀ k ∈ reservedWords, Text.upperAscii w ≠ k := by
    intro k hk hw
    rw [isReserved_of_upperAscii hw hk] at h
    cases h
  have hother : ∀ k ∈ operandWords, Text.upperAscii w ≠ k := by
    intro k hk hw
    rw [isOperandWord, hw, List.contains_iff_mem.2 hk] at hword
    cases hword
  dsimp only
  split
  case h_1 hw => exact absurd hw (hreserved _ (by decide))
  case h_2 hw => exact absurd hw (hreserved _ (by decide))
  case h_3 hw => exact absurd hw (hreserved _ (by decide))
  case h_4 hw => exact absurd hw (hreserved _ (by decide))
  case h_5 hw => exact absurd hw (hother _ (by decide))
  case h_6 hw => exact absurd hw (hother _ (by decide))
  case h_7 hw => exact absurd hw (hother _ (by decide))
  case h_8 hw => exact absurd hw (hother _ (by decide))
  case h_9 hw => exact absurd hw (hother _ (by decide))
  case h_10 => exact hcolumn

/-- A name that ends an item of a list is read as a column. -/
theorem takes_columnName {fuel level : Nat} {w : String} (h : isReserved w = false)
    (hword : isOperandWord w = false) (ht : endsItem t) :
    Takes (exprAt (fuel + 3) level) (.word w :: t :: ts) (.name none w false) (t :: ts) := by
  rw [exprAt]
  refine (takes_operand_word h hword ?_ ?_).bind (takes_operators_none _ _ _ ht)
  all_goals rcases ht with rfl | rfl <;> decide

/-! ## Equations -/

/-- The equation between a column and the parameter of its name. -/
def equation (c : String) : Expr :=
  .binary .equal (.name none c false) (.parameter (":" ++ c))

/-- The tokens of an equation. -/
def equationTokens (c : String) : List Token :=
  [.word c, .symbol "=", .parameter (":" ++ c)]

/-- What stands behind an equation of a conjunction. -/
def endsEquation (t : Token) : Prop :=
  t = .word "AND" ∨ t = .finish

theorem takes_equality_and (fuel : Nat) (left : Expr) :
    Takes (equality (fuel + 1) left) (.word "AND" :: ts) none (.word "AND" :: ts) := by
  rw [equality]
  iterate 7 refine (takes_accept_none (by decide)).bind ?_
  refine takes_get fun lexemes _ => takes_peek.bind ?_
  have hnot : isKeyword "NOT" (.word "AND") = false := by decide
  simp only [hnot, Bool.false_and, Bool.false_eq_true, if_false]
  iterate 2 refine (takes_accept_none (by decide)).bind ?_
  refine takes_peek.bind ?_
  have hcall : (callWords.find? fun w => isKeyword w.1 (.word "AND")) = none := by decide
  rw [hcall]
  exact takes_pure none

/-- An equation on the right of an operator ends where the next one begins. -/
theorem takes_operators_end {level : Nat} (fuel : Nat) (left : Expr) (h : 2 < level)
    (ht : endsEquation t) : Takes (operators (fuel + 2) level left) (t :: ts) left (t :: ts) := by
  rw [operators]
  refine takes_peek.bind ?_
  rcases ht with rfl | rfl
  · have hcollate : Text.sameName "AND" "COLLATE" = false := by decide
    have h1 : ¬level ≤ 1 := by omega
    have h2 : ¬level ≤ 2 := by omega
    simp only [h1, h2, hcollate, decide_false, Bool.false_and, Bool.and_false, Bool.false_eq_true,
      if_false]
    split
    · exact (takes_equality_and fuel left).bind (takes_pure left)
    · exact takes_pure left
  · exact takes_pure left

/-- An equation is read up to what stands behind it. -/
theorem takes_equation {fuel level : Nat} {c : String} {e : Expr} {rest : List Token}
    (hr : isReserved c = false) (hword : isOperandWord c = false) (hlevel : level ≤ 4)
    (ht : endsEquation t)
    (h : Takes (operators (fuel + 3) level (equation c)) (t :: ts) e rest) :
    Takes (exprAt (fuel + 5) level) (equationTokens c ++ t :: ts) e rest := by
  have hparameter : Takes (exprAt (fuel + 3) 5) (.parameter (":" ++ c) :: t :: ts)
      (.parameter (":" ++ c)) (t :: ts) := by
    rw [exprAt]
    have hoperand : Takes (operand (fuel + 2)) (.parameter (":" ++ c) :: t :: ts)
        (.parameter (":" ++ c)) (t :: ts) := by
      rw [operand]
      exact takes_peek.bind (takes_get fun _ _ => takes_skip.bind (takes_pure _))
    exact hoperand.bind (takes_operators_end fuel _ (by decide) ht)
  have hequals : Takes (operators (fuel + 4) level (.name none c false))
      (.symbol "=" :: .parameter (":" ++ c) :: t :: ts) e rest := by
    rw [operators]
    refine takes_peek.bind ?_
    have hfind : symbolOperators.find? (·.1 == "=") = some ("=", 4, .equal) := by decide
    have harrow : ("=" == "->" || "=" == "->>") = false := by decide
    simp only [hfind, harrow, Bool.false_and, Bool.false_eq_true, if_false]
    rw [if_pos hlevel]
    exact takes_skip.bind (hparameter.bind h)
  rw [exprAt]
  exact (takes_operand_word hr hword (by simp) (by simp)).bind hequals

/-! ## Conjunctions -/

/-- The conjunction of an expression with equations. -/
def conjoin (e : Expr) (columns : List String) : Expr :=
  columns.foldl (fun e c => .binary .and e (equation c)) e

/-- The tokens of further equations, up to the end of the text. -/
def conjoinTokens (columns : List String) : List Token :=
  columns.flatMap (fun c => .word "AND" :: equationTokens c) ++ [.finish]

theorem exists_conjoinTokens (columns : List String) :
    ∃ t ts, conjoinTokens columns = t :: ts ∧ endsEquation t := by
  cases columns with
  | nil => exact ⟨_, _, rfl, .inr rfl⟩
  | cons c rest => exact ⟨_, _, rfl, .inl rfl⟩

/-- Equations are conjoined one after the other. -/
theorem takes_operators_conjoin {columns : List String} (fuel : Nat) (left : Expr)
    (hr : ∀ c ∈ columns, isReserved c = false) (hword : ∀ c ∈ columns, isOperandWord c = false)
    (hf : columns.length + 6 ≤ fuel) :
    Takes (operators fuel 0 left) (conjoinTokens columns) (conjoin left columns) [.finish] := by
  induction columns generalizing fuel left with
  | nil =>
    obtain ⟨fuel, rfl⟩ : ∃ n, fuel = n + 1 := ⟨fuel - 1, by simp at hf; omega⟩
    rw [operators]
    exact takes_peek.bind (takes_pure left)
  | cons c rest ih =>
    rw [List.length_cons] at hf
    obtain ⟨fuel, rfl⟩ : ∃ n, fuel = n + 6 := ⟨fuel - 6, by omega⟩
    have hrest := ih (fuel + 5) (.binary .and left (equation c))
      (fun d hd => hr d (List.mem_cons_of_mem c hd))
      (fun d hd => hword d (List.mem_cons_of_mem c hd)) (by omega)
    obtain ⟨t, ts, hts, ht⟩ := exists_conjoinTokens rest
    have hequation : Takes (exprAt (fuel + 5) 3) (equationTokens c ++ conjoinTokens rest)
        (equation c) (conjoinTokens rest) := by
      rw [hts]
      exact takes_equation (hr c (by simp)) (hword c (by simp)) (by decide) ht
        (takes_operators_end _ _ (by decide) ht)
    have htokens : conjoinTokens (c :: rest) =
        .word "AND" :: (equationTokens c ++ conjoinTokens rest) := by
      simp [conjoinTokens]
    rw [htokens, operators]
    refine takes_peek.bind ?_
    have hor : Text.sameName "AND" "OR" = false := by decide
    have hand : Text.sameName "AND" "AND" = true := by decide
    simp only [hor, hand, Bool.and_false, Bool.false_eq_true, if_false]
    exact takes_skip.bind (hequation.bind hrest)

/-- The conjunction of equations. -/
def conjunction : List String → Expr
  | [] => .always
  | c :: rest => conjoin (equation c) rest

/-- The tokens of a conjunction, up to the end of the text. -/
def conjunctionTokens : List String → List Token
  | [] => [.finish]
  | c :: rest => equationTokens c ++ conjoinTokens rest

theorem takes_conjunction {columns : List String} (hne : columns ≠ [])
    (hr : ∀ c ∈ columns, isReserved c = false) (hword : ∀ c ∈ columns, isOperandWord c = false) :
    Takes expr (conjunctionTokens columns) (conjunction columns) [.finish] := by
  obtain ⟨c, rest, rfl⟩ := List.exists_cons_of_ne_nil hne
  rw [conjunctionTokens]
  refine takes_enoughFuel.bind ?_
  have hlength : rest.length ≤ (conjoinTokens rest).length := by
    have : (conjoinTokens rest).length = 4 * rest.length + 1 := by
      simp [conjoinTokens, equationTokens, List.length_flatMap, List.map_const', Nat.mul_comm]
    omega
  generalize hfuel : 6 * (equationTokens c ++ conjoinTokens rest).length + 12 = fuel
  rw [List.length_append] at hfuel
  obtain ⟨fuel, rfl⟩ : ∃ n, fuel = n + 5 := ⟨fuel - 5, by omega⟩
  have hrest := takes_operators_conjoin (fuel + 3) (equation c)
    (fun d hd => hr d (List.mem_cons_of_mem c hd))
    (fun d hd => hword d (List.mem_cons_of_mem c hd)) (by omega)
  obtain ⟨t, ts, hts, ht⟩ := exists_conjoinTokens rest
  rw [hts] at hrest ⊢
  exact takes_equation (hr c (by simp)) (hword c (by simp)) (by decide) ht hrest

/-! ## Deletions -/

/-- The tokens of a deletion of the rows that meet a conjunction. -/
def deletionTokens (table : String) (columns : List String) : List Token :=
  .word "DELETE" :: .word "FROM" :: .word table :: .word "WHERE" :: conjunctionTokens columns

/-- **The grammar reads a deletion back**, given names that are not reserved. -/
theorem takes_deletion {table : String} {columns : List String} (htable : isReserved table = false)
    (hne : columns ≠ []) (hr : ∀ c ∈ columns, isReserved c = false)
    (hword : ∀ c ∈ columns, isOperandWord c = false) :
    Takes statement (deletionTokens table columns) (.delete ⟨none, table⟩ (conjunction columns))
      [.finish] := by
  have hdelete : Takes delete (.word "FROM" :: .word table :: .word "WHERE" ::
      conjunctionTokens columns) (.delete ⟨none, table⟩ (conjunction columns)) [.finish] := by
    refine (takes_expect (by decide)).bind ((takes_objectName htable (by simp)).bind ?_)
    exact (takes_accept (by decide)).bind ((takes_conjunction hne hr hword).bind (takes_pure _))
  have hcommand : Takes command (deletionTokens table columns)
      (.delete ⟨none, table⟩ (conjunction columns)) [.finish] := by
    iterate 4 refine (takes_accept_none (by decide)).bind ?_
    exact (takes_accept (by decide)).bind hdelete
  have hend : Takes statementEnd [.finish] () [.finish] := takes_peek.bind (takes_pure ())
  exact hcommand.bind (hend.bind (takes_pure _))

end Tablewright.Sql.Grammar
