import Tablewright.Proofs.Sql.Spelling
import Tablewright.Sql.Grammar.Statement

/-!
# What the grammar takes off the front

The grammar of writes and deletions looks only at the tokens of the lexemes it is given. `Takes`
says so for one reader: in front of any lexemes with the given tokens it reads one thing and
leaves lexemes with the given other tokens. Readers one after the other are `Takes.bind`.
-/

namespace Tablewright.Sql.Grammar

/-- In front of lexemes with the tokens `ts`, the reader reads `a` and leaves the tokens `rest`. -/
def Takes {α : Type} (g : Grammar α) (ts : List Token) (a : α) (rest : List Token) : Prop :=
  ∀ lexemes : List Lexeme, lexemes.map (·.token) = ts →
    ∃ others : List Lexeme, others.map (·.token) = rest ∧ g.run lexemes = some (a, others)

variable {α β : Type} {g : Grammar α} {ts rest : List Token} {t : Token}

theorem Takes.bind {f : α → Grammar β} {a : α} {b : β} {middle : List Token}
    (hg : Takes g ts a middle) (hf : Takes (f a) middle b rest) : Takes (g >>= f) ts b rest := by
  intro lexemes h
  obtain ⟨others, ho, hrun⟩ := hg lexemes h
  obtain ⟨last, hl, hrun'⟩ := hf others ho
  exact ⟨last, hl, by rw [StateT.run_bind, hrun]; exact hrun'⟩

theorem takes_pure (a : α) : Takes (pure a) ts a ts :=
  fun lexemes h => ⟨lexemes, h, rfl⟩

theorem front_eq {lexemes : List Lexeme} (h : lexemes.map (·.token) = t :: ts) :
    front lexemes = t := by
  cases lexemes with
  | nil => simp at h
  | cons l ls => exact (List.cons.inj h).1

theorem map_drop_one {lexemes : List Lexeme} (h : lexemes.map (·.token) = t :: ts) :
    (lexemes.drop 1).map (·.token) = ts := by
  rw [List.map_drop, h, List.drop_one, List.tail_cons]

theorem takes_peek : Takes peek (t :: ts) t (t :: ts) :=
  fun lexemes h => ⟨lexemes, h, by rw [← front_eq h]; rfl⟩

theorem takes_skip : Takes skip (t :: ts) () ts :=
  fun lexemes h => ⟨lexemes.drop 1, map_drop_one h, rfl⟩

theorem takes_get {f : List Lexeme → Grammar β} {b : β}
    (h : ∀ lexemes : List Lexeme, lexemes.map (·.token) = ts → Takes (f lexemes) ts b rest) :
    Takes (get >>= f) ts b rest :=
  fun lexemes hl => h lexemes hl lexemes hl

theorem takes_enoughFuel : Takes enoughFuel ts (6 * ts.length + 12) ts :=
  fun lexemes h => ⟨lexemes, h, by rw [← h, List.length_map]; rfl⟩

/-! ## Keywords and symbols -/

theorem takes_accept {keyword : String} (h : isKeyword keyword t = true) :
    Takes (accept [keyword]) (t :: ts) true ts := by
  intro lexemes hl
  refine ⟨lexemes.drop 1, map_drop_one hl, ?_⟩
  have : beginWith [keyword] lexemes = true := by simp [beginWith, front_eq hl, h]
  simp [accept, StateT.run_bind, this]

theorem takes_accept_none {keyword : String} {more : List String} (h : isKeyword keyword t = false) :
    Takes (accept (keyword :: more)) (t :: ts) false (t :: ts) := by
  intro lexemes hl
  refine ⟨lexemes, hl, ?_⟩
  have : beginWith (keyword :: more) lexemes = false := by simp [beginWith, front_eq hl, h]
  simp [accept, StateT.run_bind, this]

theorem takes_expect {keyword : String} (h : isKeyword keyword t = true) :
    Takes (expect [keyword]) (t :: ts) () ts :=
  (takes_accept h).bind (takes_pure ())

theorem takes_acceptSymbol {s : String} :
    Takes (acceptSymbol s) (.symbol s :: ts) true ts := by
  refine takes_peek.bind ?_
  simp only [if_true]
  exact takes_skip.bind (takes_pure true)

theorem takes_acceptSymbol_none {s : String} (h : t ≠ .symbol s) :
    Takes (acceptSymbol s) (t :: ts) false (t :: ts) := by
  refine takes_peek.bind ?_
  simp only [h, if_false]
  exact takes_pure false

theorem takes_expectSymbol {s : String} :
    Takes (expectSymbol s) (.symbol s :: ts) () ts :=
  takes_acceptSymbol.bind (takes_pure ())

/-! ## Names -/

theorem takes_name {w : String} (h : isReserved w = false) :
    Takes name (.word w :: ts) w ts := by
  refine takes_peek.bind ?_
  simp only [nameOf?, h, Bool.false_eq_true, if_false]
  exact takes_skip.bind (takes_pure w)

theorem takes_objectName {w : String} (h : isReserved w = false) (ht : t ≠ .symbol ".") :
    Takes objectName (.word w :: t :: ts) ⟨none, w⟩ (t :: ts) := by
  have htable : Takes tableName (.word w :: t :: ts) (none, w) (t :: ts) :=
    (takes_name h).bind ((takes_acceptSymbol_none ht).bind (takes_pure _))
  exact htable.bind (takes_pure _)

/-! ## Lists -/

theorem length_le_intercalate {ι : Type} (separator : List ι) {items : List (List ι)}
    (h : ∀ item ∈ items, item ≠ []) :
    items.length ≤ (List.intercalate separator items).length := by
  induction items with
  | nil => simp
  | cons a others ih =>
    have ha : 0 < a.length := List.length_pos_iff.2 (h a (by simp))
    have hothers := ih fun item hitem => h item (by simp [hitem])
    cases others with
    | nil => simpa [List.intercalate_singleton, Nat.succ_le_iff] using ha
    | cons b others =>
      rw [List.intercalate_cons_cons]
      simp only [List.length_cons, List.length_append] at hothers ⊢
      omega

theorem length_le_separated {items : List (List Token)} (h : ∀ ts ∈ items, ts ≠ []) :
    items.length ≤ (separated items).length :=
  length_le_intercalate _ h

/-- Items with their commas are read if each item is, in front of a comma or of what follows the
list. -/
theorem takes_commaList {ι : Type} {item : Grammar α} {tokensOf : ι → List Token} {value : ι → α}
    {items : List ι} (hne : items ≠ [])
    (hitem : ∀ i ∈ items, ∀ t' ts, t' = .symbol "," ∨ t' = t →
      Takes item (tokensOf i ++ t' :: ts) (value i) (t' :: ts))
    {fuel : Nat} (hf : items.length ≤ fuel) (ht : t ≠ .symbol ",") :
    Takes (commaList item fuel) (separated (items.map tokensOf) ++ t :: ts) (items.map value)
      (t :: ts) := by
  induction items generalizing fuel with
  | nil => exact absurd rfl hne
  | cons a others ih =>
    obtain ⟨fuel, rfl⟩ : ∃ n, fuel = n + 1 := ⟨fuel - 1, by simp at hf; omega⟩
    rw [commaList]
    cases others with
    | nil =>
      rw [List.map_singleton, separated, List.intercalate_singleton]
      refine (hitem a (by simp) _ _ (.inr rfl)).bind ((takes_acceptSymbol_none ht).bind ?_)
      exact takes_pure _
    | cons b others =>
      rw [List.map_cons, List.map_cons, separated_cons, List.append_assoc, List.cons_append]
      refine (hitem a (by simp) _ _ (.inl rfl)).bind (takes_acceptSymbol.bind ?_)
      refine (ih (by simp) (fun c hc => hitem c (by simp [hc])) ?_).bind (takes_pure _)
      simp only [List.length_cons] at hf ⊢
      omega

/-- The tokens of a list of names. -/
def nameTokens (names : List String) : List Token :=
  .symbol "(" :: (separated (names.map fun n => [.word n]) ++ [.symbol ")"])

theorem takes_nameList? {names : List String} (hne : names ≠ [])
    (hr : ∀ n ∈ names, isReserved n = false) :
    Takes nameList? (nameTokens names ++ ts) names ts := by
  rw [nameTokens, List.cons_append, List.append_assoc, List.singleton_append]
  have hnames : ∀ fuel, names.length ≤ fuel → Takes (commaList name fuel)
      (separated (names.map fun n => [.word n]) ++ .symbol ")" :: ts) names (.symbol ")" :: ts) := by
    intro fuel hf
    have : Takes (commaList name fuel)
        (separated (names.map fun n => [.word n]) ++ .symbol ")" :: ts) (names.map id)
        (.symbol ")" :: ts) :=
      takes_commaList hne (fun n hn _ _ _ => takes_name (hr n hn)) hf (by simp)
    rwa [List.map_id] at this
  refine takes_acceptSymbol.bind (takes_enoughFuel.bind ((hnames _ ?_).bind
    (takes_expectSymbol.bind (takes_pure names))))
  have := @length_le_separated (names.map fun n => [.word n]) (by simp)
  simp only [List.length_map, List.length_append] at this ⊢
  omega

/-! ## Values -/

/-- A mark behind an item of a list. -/
def endsItem (t : Token) : Prop :=
  t = .symbol "," ∨ t = .symbol ")"

theorem takes_operators_none (fuel level : Nat) (left : Expr) (ht : endsItem t) :
    Takes (operators (fuel + 1) level left) (t :: ts) left (t :: ts) := by
  rw [operators]
  refine takes_peek.bind ?_
  rcases ht with rfl | rfl
  all_goals
    simp [symbolOperators]
    exact takes_pure left

/-- A token that is a value on its own: a parameter, or NULL. -/
def isValue : Token → Bool
  | .parameter _ => true
  | .word w => w == "NULL"
  | _ => false

/-- The expression that such a token is. -/
def valueOf : Token → Expr
  | .parameter p => .parameter p
  | _ => .literal .null

theorem takes_value (fuel level : Nat) {value : Token} (hv : isValue value = true)
    (ht : endsItem t) :
    Takes (exprAt (fuel + 2) level) (value :: t :: ts) (valueOf value) (t :: ts) := by
  have hoperand : Takes (operand (fuel + 1)) (value :: t :: ts) (valueOf value) (t :: ts) := by
    rw [operand]
    refine takes_peek.bind (takes_get fun _ _ => ?_)
    cases value with
    | parameter p => exact takes_skip.bind (takes_pure _)
    | word w =>
      obtain rfl := beq_iff_eq.1 hv
      have hupper : Text.upperAscii "NULL" = "NULL" := by
        rw [← String.toList_inj, Text.upperAscii, String.toList_map]
        decide
      simp only [hupper]
      exact takes_skip.bind (takes_pure _)
    | _ => cases hv
  rw [exprAt]
  exact hoperand.bind (takes_operators_none fuel level _ ht)

theorem takes_expressions {tokens : List Token} (hne : tokens ≠ [])
    (hv : ∀ value ∈ tokens, isValue value = true) {fuel : Nat} (hf : tokens.length + 2 ≤ fuel) :
    Takes (expressions fuel) (separated (tokens.map fun value => [value]) ++ .symbol ")" :: ts)
      (tokens.map valueOf) (.symbol ")" :: ts) := by
  induction tokens generalizing fuel with
  | nil => exact absurd rfl hne
  | cons value others ih =>
    obtain ⟨fuel, rfl⟩ : ∃ n, fuel = n + 3 := ⟨fuel - 3, by simp at hf; omega⟩
    have hvalue := hv value (by simp)
    rw [expressions]
    cases others with
    | nil =>
      rw [List.map_singleton, separated, List.intercalate_singleton]
      exact (takes_value fuel 0 hvalue (.inr rfl)).bind
        ((takes_acceptSymbol_none (by simp)).bind (takes_pure _))
    | cons next others =>
      rw [List.map_cons, List.map_cons, separated_cons, List.append_assoc, List.cons_append]
      refine (takes_value fuel 0 hvalue (.inl rfl)).bind (takes_acceptSymbol.bind ?_)
      refine (ih (by simp) (fun v h => hv v (List.mem_cons_of_mem value h)) ?_).bind (takes_pure _)
      simp only [List.length_cons] at hf ⊢
      omega

/-! ## Writes -/

/-- The tokens of a row of values. -/
def rowTokens (values : List Token) : List Token :=
  .symbol "(" :: (separated (values.map fun value => [value]) ++ [.symbol ")"])

theorem length_le_rowTokens {rows : List (List Token)} {values : List Token} (h : values ∈ rows) :
    values.length ≤ (separated (rows.map rowTokens)).length := by
  have hrow : values.length ≤ (rowTokens values).length := by
    have := @length_le_separated (values.map fun value => [value]) (by simp)
    simp only [rowTokens, List.length_map, List.length_cons, List.length_append] at this ⊢
    omega
  induction rows with
  | nil => simp at h
  | cons first others ih =>
    cases others with
    | nil =>
      obtain rfl : values = first := by simpa using h
      simpa [separated, List.intercalate_singleton] using hrow
    | cons second others =>
      rw [List.map_cons, List.map_cons, separated_cons]
      simp only [List.length_append, List.length_cons]
      rcases List.mem_cons.1 h with rfl | h
      · omega
      · have := ih h
        rw [List.map_cons] at this
        omega

theorem takes_valueRows {rows : List (List Token)} (hne : rows ≠ [])
    (hrows : ∀ values ∈ rows, values ≠ []) (hv : ∀ values ∈ rows, ∀ v ∈ values, isValue v = true)
    (ht : t ≠ .symbol ",") :
    Takes valueRows (separated (rows.map rowTokens) ++ t :: ts)
      (rows.map fun values => values.map valueOf) (t :: ts) := by
  refine takes_enoughFuel.bind (takes_commaList hne ?_ ?_ ht)
  · intro values hvalues t' ts' _
    rw [rowTokens, List.cons_append, List.append_assoc, List.singleton_append]
    refine takes_expectSymbol.bind ((takes_expressions (hrows values hvalues) (hv values hvalues)
      ?_).bind (takes_expectSymbol.bind (takes_pure _)))
    have := length_le_rowTokens hvalues
    rw [List.length_append]
    omega
  · have := @length_le_separated (rows.map rowTokens) (by simp [rowTokens])
    simp only [List.length_map, List.length_append] at this ⊢
    omega

/-- The tokens of a statement that writes rows of values. -/
def writeTokens (verb : WriteVerb) (table : String) (columns : List String)
    (rows : List (List Token)) : List Token :=
  .word verb.keyword :: .word "INTO" :: .word table :: (nameTokens columns ++
    .word "VALUES" :: (separated (rows.map rowTokens) ++ [.finish]))

/-- **The grammar reads a write back**, given names that are not reserved. -/
theorem takes_statement (verb : WriteVerb) {table : String} {columns : List String}
    {rows : List (List Token)} (htable : isReserved table = false) (hne : columns ≠ [])
    (hcolumns : ∀ c ∈ columns, isReserved c = false) (hrows : rows ≠ [])
    (hvalues : ∀ values ∈ rows, values ≠ [])
    (hv : ∀ values ∈ rows, ∀ v ∈ values, isValue v = true) :
    Takes statement (writeTokens verb table columns rows)
      (.write verb ⟨none, table⟩ (some columns) (rows.map fun values => values.map valueOf))
      [.finish] := by
  have hwrite : Takes (write verb) (.word "INTO" :: .word table :: (nameTokens columns ++
      .word "VALUES" :: (separated (rows.map rowTokens) ++ [.finish])))
      (.write verb ⟨none, table⟩ (some columns) (rows.map fun values => values.map valueOf))
      [.finish] := by
    refine (takes_expect (by decide)).bind ?_
    refine (takes_objectName htable (by simp)).bind ?_
    refine (takes_nameList? hne hcolumns).bind ((takes_expect (by decide)).bind ?_)
    refine (takes_valueRows hrows hvalues hv (by simp)).bind ?_
    rw [if_neg (by simpa using hne)]
    exact takes_pure _
  have hend : Takes statementEnd [.finish] () [.finish] := takes_peek.bind (takes_pure ())
  have hcommand : Takes command (writeTokens verb table columns rows)
      (.write verb ⟨none, table⟩ (some columns) (rows.map fun values => values.map valueOf))
      [.finish] := by
    cases verb with
    | insert =>
      refine (takes_accept_none (by decide)).bind ((takes_accept_none (by decide)).bind ?_)
      exact (takes_accept (by decide)).bind hwrite
    | replace =>
      refine (takes_accept_none (by decide)).bind ((takes_accept_none (by decide)).bind ?_)
      exact (takes_accept_none (by decide)).bind ((takes_accept (by decide)).bind hwrite)
  exact hcommand.bind (hend.bind (takes_pure _))

end Tablewright.Sql.Grammar
