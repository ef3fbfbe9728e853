import Tablewright.Proofs.Sql.Increments

/-!
# Reading definitions back

The lexemes of a table definition in its plainest form, columns with a type and at most the
constraints NOT NULL, PRIMARY KEY and AUTOINCREMENT, are read as this definition
(`reads_createTable`), and those of an index over columns as this index (`takes_createIndex`). The
source of a table is taken from its lexemes, so that tokens are not enough here: `Reads` says what is
read from lexemes, and which of them are left. Where a reader looks at tokens only, `Takes.reads`
says the same.
-/

namespace Tablewright.Sql.Grammar

variable {α β : Type}

/-! ## Reading lexemes -/

/-- From these lexemes, the reader reads `a` and leaves the lexemes `rest`. -/
def Reads (g : Grammar α) (ls : List Lexeme) (a : α) (rest : List Lexeme) : Prop :=
  g.run ls = some (a, rest)

section Rules

variable {g : Grammar α} {f : α → Grammar β} {ls middle rest : List Lexeme} {a : α} {b : β}

theorem Reads.bind (hg : Reads g ls a middle) (hf : Reads (f a) middle b rest) :
    Reads (g >>= f) ls b rest :=
  run_bind_eq_some.2 ⟨a, middle, hg, hf⟩

theorem reads_pure (a : α) : Reads (pure a) ls a ls :=
  rfl

theorem reads_remaining : Reads remaining ls ls ls :=
  rfl

theorem reads_enoughFuel : Reads enoughFuel ls (6 * ls.length + 12) ls :=
  rfl

/-- A reader that looks at tokens only leaves the end of what it is given. -/
theorem Takes.reads {p : α → Prop} (h : Takes g (ls.map (·.token)) a (rest.map (·.token)))
    (hg : Accounts g p) (hrest : rest <:+ ls) : Reads g ls a rest := by
  obtain ⟨others, hothers, hrun⟩ := h ls rfl
  obtain ⟨taken, hls, -⟩ := hg ls a others hrun
  obtain ⟨front, hfront⟩ := hrest
  have hlength : others.length = rest.length := by simpa using congrArg List.length hothers
  obtain ⟨-, rfl⟩ := List.append_inj' (hls.symm.trans hfront.symm) hlength
  exact hrun

end Rules

section Words

variable {ls : List Lexeme} {l l' : Lexeme} {k k' w : String} {more : List String}

theorem reads_accept (h : isKeyword k l.token = true) : Reads (accept [k]) (l :: ls) true ls := by
  rw [Reads, run_accept, if_pos (by simp [beginWith, front, h])]
  rfl

theorem reads_accept_none (h : isKeyword k l.token = false) :
    Reads (accept (k :: more)) (l :: ls) false (l :: ls) := by
  rw [Reads, run_accept, if_neg (by simp [beginWith, front, h])]

theorem reads_acceptSymbol {s : String} (h : l.token = .symbol s) :
    Reads (acceptSymbol s) (l :: ls) true ls := by
  rw [Reads, run_acceptSymbol, if_pos (show front (l :: ls) = .symbol s from h)]
  rfl

theorem reads_acceptSymbol_none {s : String} (h : front ls ≠ .symbol s) :
    Reads (acceptSymbol s) ls false ls := by
  rw [Reads, run_acceptSymbol, if_neg h]

theorem reads_expectSymbol {s : String} (h : l.token = .symbol s) :
    Reads (expectSymbol s) (l :: ls) () ls :=
  (reads_acceptSymbol h).bind (reads_pure ())

theorem reads_name {gap : List Char} (h : isReserved w = false) :
    Reads name (wordAt gap w :: ls) w ls :=
  Takes.reads (takes_name h) plain_name (List.suffix_cons ..)

end Words

/-! ## Columns -/

section Columns

variable {t t' : Token} {ts : List Token} {k k' : String}

/-- Keywords one after the other. -/
theorem takes_acceptAll (keywords : List String) :
    Takes (accept keywords) (keywords.map .word ++ ts) true ts := by
  intro lexemes hl
  refine ⟨lexemes.drop keywords.length, by rw [List.map_drop, hl, List.drop_left' (by simp)], ?_⟩
  have hbegin : beginWith keywords lexemes = true := by
    induction keywords generalizing lexemes with
    | nil => rfl
    | cons k keywords ih =>
      have hk : isKeyword k (front lexemes) = true := by
        rw [front_eq hl]
        exact Text.sameName_refl k
      rw [beginWith, hk, ih _ (map_drop_one hl)]
      rfl
  rw [run_accept, if_pos hbegin]

theorem takes_accept_later_none {more : List String} (h' : isKeyword k' t' = false) :
    Takes (accept (k :: k' :: more)) (t :: t' :: ts) false (t :: t' :: ts) := by
  intro lexemes hl
  have hbegin : beginWith (k :: k' :: more) lexemes = false := by
    rw [beginWith, beginWith, front_eq (map_drop_one hl), h', Bool.false_and, Bool.and_false]
  exact ⟨lexemes, hl, by rw [run_accept, if_neg (by rw [hbegin]; decide)]⟩

/-- The name of an object to define is read as any other, unless it is spelled like `IF`. -/
theorem takes_newObjectName {w : String} (h : isReserved w = false)
    (hif : isKeyword "IF" (.word w) = false) (ht : t ≠ .symbol ".") :
    Takes newObjectName (.word w :: t :: ts) ⟨none, w⟩ (t :: ts) := by
  intro lexemes hl
  obtain ⟨others, ho, hrun⟩ := takes_objectName h ht lexemes hl
  refine ⟨others, ho, ?_⟩
  obtain ⟨l, ls, rfl, hl, hls⟩ := List.map_eq_cons_iff.1 hl
  have hname : ((l :: ls).take ((l :: ls).length - others.length)).getLast? = some l := by
    have hlength : (l :: ls).length - others.length = 1 := by
      have := congrArg List.length ho
      have := congrArg List.length hls
      simp only [List.length_map, List.length_cons] at *
      omega
    rw [hlength]
    rfl
  refine run_bind_eq_some.2 ⟨_, _, rfl, run_bind_eq_some.2 ⟨_, _, hrun, ?_⟩⟩
  refine run_bind_eq_some.2 ⟨_, _, rfl, ?_⟩
  rw [hname, Option.any_some, hl, hif]
  rfl

theorem takes_ifNotExists :
    Takes ifNotExists (.word "IF" :: .word "NOT" :: .word "EXISTS" :: ts) true ts :=
  (takes_acceptAll ["IF"]).bind
    (((takes_acceptAll ["NOT", "EXISTS"]).bind (takes_pure ())).bind (takes_pure true))

theorem takes_ifNotExists_none (h : isKeyword "IF" t = false) :
    Takes ifNotExists (t :: ts) false (t :: ts) :=
  (takes_accept_none h).bind (takes_pure false)

/-- The constraints of a column in its plainest form. -/
def plainConstraints (notNull primaryKey autoIncrement : Bool) : List ColumnConstraint :=
  (if notNull then [.notNull] else []) ++
    if primaryKey then [.primaryKey false autoIncrement] else []

/-- The words of the constraints. -/
def plainConstraintWords (notNull primaryKey autoIncrement : Bool) : List String :=
  (if notNull then ["NOT", "NULL"] else []) ++ (if primaryKey then ["PRIMARY", "KEY"] else []) ++
    if autoIncrement then ["AUTOINCREMENT"] else []

theorem takes_direction_none (hdesc : isKeyword "DESC" t = false) (hasc : isKeyword "ASC" t = false) :
    Takes direction (t :: ts) false (t :: ts) :=
  (takes_accept_none hdesc).bind ((takes_accept_none hasc).bind (takes_pure false))

/-- No constraint begins with a mark. -/
theorem takes_columnConstraints_none (fuel : Nat) (ht : endsItem t) :
    Takes (columnConstraints none (fuel + 1)) (t :: ts) ([], none) (t :: ts) := by
  have hword : ∀ k, isKeyword k t = false := by
    intro k
    rcases ht with rfl | rfl <;> rfl
  have hdeferral : Takes deferral (t :: ts) false (t :: ts) := by
    refine (takes_accept_none (hword _)).bind ((takes_accept_none (hword _)).bind ?_)
    exact takes_pure false
  rw [columnConstraints]
  iterate 3 refine (takes_accept_none (hword _)).bind ?_
  refine hdeferral.bind ?_
  iterate 6 refine (takes_accept_none (hword _)).bind ?_
  exact takes_pure _

theorem takes_moreConstraints {label : Option String} {fuel : Nat} {ks : List ColumnConstraint}
    (h : Takes (columnConstraints label fuel) ts (ks, label) ts') (c : ColumnConstraint) :
    Takes (do
      let (rest, label) ← columnConstraints label fuel
      return (c :: rest, label)) ts (c :: ks, label) ts' :=
  h.bind (takes_pure _)

theorem takes_columnConstraints_key (fuel : Nat) (autoIncrement : Bool) (ht : endsItem t) :
    Takes (columnConstraints none (fuel + 2)) (.word "PRIMARY" :: .word "KEY" ::
      ((if autoIncrement then [.word "AUTOINCREMENT"] else []) ++ t :: ts))
      ([.primaryKey false autoIncrement], none) (t :: ts) := by
  have hword : ∀ k, isKeyword k t = false := by
    intro k
    rcases ht with rfl | rfl <;> rfl
  have hdeferral : ∀ ts, Takes deferral (.word "PRIMARY" :: ts) false (.word "PRIMARY" :: ts) :=
    fun ts => (takes_accept_none (by decide)).bind ((takes_accept_none (by decide)).bind
      (takes_pure false))
  rw [columnConstraints]
  iterate 3 refine (takes_accept_none (by decide)).bind ?_
  refine (hdeferral _).bind ((takes_accept_none (by decide)).bind ?_)
  refine (takes_acceptAll ["PRIMARY", "KEY"]).bind ?_
  have hrest := takes_moreConstraints (takes_columnConstraints_none (t := t) fuel ht : Takes _
    (t :: ts) _ _) (.primaryKey false autoIncrement)
  cases autoIncrement with
  | true =>
    exact (takes_direction_none (by decide) (by decide)).bind
      ((takes_accept (by decide)).bind hrest)
  | false =>
    exact (takes_direction_none (hword _) (hword _)).bind
      ((takes_accept_none (hword _)).bind hrest)

/-- **The constraints of a plain column are read back.** -/
theorem takes_columnConstraints (fuel : Nat) {notNull primaryKey autoIncrement : Bool}
    (hkey : autoIncrement = true → primaryKey = true) (ht : endsItem t) :
    Takes (columnConstraints none (fuel + 3))
      ((plainConstraintWords notNull primaryKey autoIncrement).map .word ++ t :: ts)
      (plainConstraints notNull primaryKey autoIncrement, none) (t :: ts) := by
  have hbehind : ∀ fuel, Takes (columnConstraints none (fuel + 2))
      ((plainConstraintWords false primaryKey autoIncrement).map .word ++ t :: ts)
      (plainConstraints false primaryKey autoIncrement, none) (t :: ts) := by
    intro fuel
    cases primaryKey with
    | true =>
      cases autoIncrement with
      | true => exact takes_columnConstraints_key fuel true ht
      | false => exact takes_columnConstraints_key fuel false ht
    | false =>
      obtain rfl : autoIncrement = false := Bool.eq_false_iff.2 fun h => by cases hkey h
      exact takes_columnConstraints_none (fuel + 1) ht
  cases notNull with
  | false => exact hbehind (fuel + 1)
  | true =>
    have hwords : (plainConstraintWords true primaryKey autoIncrement).map Token.word ++ t :: ts =
        .word "NOT" :: .word "NULL" ::
          ((plainConstraintWords false primaryKey autoIncrement).map .word ++ t :: ts) := rfl
    have hdeferral : ∀ ts, Takes deferral (.word "NOT" :: .word "NULL" :: ts) false
        (.word "NOT" :: .word "NULL" :: ts) := fun ts =>
      (takes_accept_later_none (by decide)).bind ((takes_accept_none (by decide)).bind
        (takes_pure false))
    rw [hwords, columnConstraints]
    iterate 3 refine (takes_accept_none (by decide)).bind ?_
    refine (hdeferral _).bind ((takes_acceptAll ["NOT", "NULL"]).bind ?_)
    exact (hbehind fuel).bind (takes_pure _)

end Columns

section Definitions

variable {ls rest : List Lexeme} {gap : List Char} {w : String}

theorem reads_peek : Reads peek ls (front ls) ls :=
  rfl

theorem reads_skip {l : Lexeme} : Reads skip (l :: ls) () ls :=
  rfl

theorem reads_typeWords_none (fuel : Nat) (h : plainNameOf? (front ls) = none) :
    Reads (typeWords (fuel + 1)) ls [] ls := by
  rw [typeWords]
  refine reads_remaining.bind ?_
  cases ls with
  | nil => exact reads_pure []
  | cons l ls =>
    have hl : plainNameOf? l.token = none := h
    dsimp only [List.head?_cons]
    rw [hl, Option.isNone_none, Bool.or_true, if_pos rfl]
    exact reads_pure []

/-- A type of one word. -/
theorem reads_typeSource (fuel : Nat) (hw : plainNameOf? (.word w) = some w)
    (hgenerated : isKeyword "GENERATED" (.word w) = false) (hrest : plainNameOf? (front rest) = none)
    (hsize : front rest ≠ .symbol "(") :
    Reads (typeSource (fuel + 2)) (wordAt gap w :: rest) w.toList rest := by
  have hwords : Reads (typeWords (fuel + 2)) (wordAt gap w :: rest) [wordAt gap w] rest := by
    rw [typeWords]
    refine reads_remaining.bind ?_
    have hplain : (isKeyword "GENERATED" (wordAt gap w).token ||
        (plainNameOf? (wordAt gap w).token).isNone) = false := by
      rw [wordAt, hgenerated, hw]
      rfl
    dsimp only [List.head?_cons]
    rw [hplain]
    exact reads_skip.bind ((reads_typeWords_none fuel hrest).bind (reads_pure _))
  refine reads_remaining.bind (hwords.bind ((reads_acceptSymbol_none hsize).bind ?_))
  refine reads_remaining.bind ?_
  have hsource : sourceOf ((wordAt gap w :: rest).take ((wordAt gap w :: rest).length -
      rest.length)) = w.toList := by
    rw [List.length_cons, Nat.add_sub_cancel_left]
    simp [sourceOf, wordAt]
  rw [hsource]
  exact reads_pure _

/-- The lexemes of a column in its plainest form. -/
def columnLexemes (name : String) (affinity : Affinity) (words : List String) : List Lexeme :=
  wordAt ['\n', ' ', ' '] name :: wordAt [' '] affinity.keyword :: words.map (wordAt [' '])

theorem reportedType_keyword (affinity : Affinity) :
    plainNameOf? (.word affinity.keyword) = some affinity.keyword ∧
      isKeyword "GENERATED" (.word affinity.keyword) = false ∧
      reportedType affinity.keyword.toList = affinity.keyword := by
  cases affinity <;> decide +kernel

theorem isReserved_head_plainConstraintWords : ∀ notNull primaryKey autoIncrement,
    (plainConstraintWords notNull primaryKey autoIncrement).head?.all isReserved = true := by
  decide

/-- No type goes on behind the type of a plain column. -/
theorem front_plainConstraintWords (notNull primaryKey autoIncrement : Bool)
    (hrest : endsItem (front rest)) :
    let behind :=
      (plainConstraintWords notNull primaryKey autoIncrement).map (wordAt [' ']) ++ rest
    plainNameOf? (front behind) = none ∧ front behind ≠ .symbol "(" := by
  intro behind
  have hreserved := isReserved_head_plainConstraintWords notNull primaryKey autoIncrement
  dsimp only [behind]
  cases hwords : plainConstraintWords notNull primaryKey autoIncrement with
  | nil =>
    rw [List.map_nil, List.nil_append]
    rcases hrest with h | h <;> rw [h] <;> decide
  | cons w words =>
    have hw : isReserved w = true := by simpa [hwords] using hreserved
    exact ⟨by simp [front, wordAt, plainNameOf?, hw], by simp [front, wordAt]⟩

/-- **A plain column is read back.** -/
theorem reads_columnDefinition {name : String} (affinity : Affinity)
    {notNull primaryKey autoIncrement : Bool} (hname : isReserved name = false)
    (hkey : autoIncrement = true → primaryKey = true) (hrest : endsItem (front rest)) :
    Reads columnDefinition
      (columnLexemes name affinity (plainConstraintWords notNull primaryKey autoIncrement) ++ rest)
      (⟨name, affinity.keyword, plainConstraints notNull primaryKey autoIncrement⟩, none) rest := by
  obtain ⟨hplain, hgenerated, htype⟩ := reportedType_keyword affinity
  have hnone := front_plainConstraintWords notNull primaryKey autoIncrement hrest
  generalize hwords : (plainConstraintWords notNull primaryKey autoIncrement).map (wordAt [' ']) = ws
    at hnone
  have hconstraints : ∀ fuel, Reads (columnConstraints none (fuel + 3)) (ws ++ rest)
      (plainConstraints notNull primaryKey autoIncrement, none) rest := by
    intro fuel
    cases rest with
    | nil => rcases hrest with h | h <;> cases h
    | cons l rest =>
      refine Takes.reads ?_ (accounts_columnConstraints none _) (List.suffix_append ..)
      have htokens : (ws ++ l :: rest).map (·.token) =
          (plainConstraintWords notNull primaryKey autoIncrement).map .word ++
            l.token :: rest.map (·.token) := by
        simp [← hwords, wordAt]
      rw [htokens]
      exact takes_columnConstraints fuel hkey hrest
  rw [columnLexemes, hwords]
  refine (reads_name hname).bind (reads_enoughFuel.bind ?_)
  refine (reads_typeSource _ hplain hgenerated hnone.1 hnone.2).bind ?_
  refine (hconstraints _).bind ?_
  rw [htype]
  exact reads_pure _

/-- A name does not begin a constraint on the table. -/
theorem reads_beginsTableConstraint_none (hw : isReserved w = false) (hfront : front ls = .word w) :
    Reads beginsTableConstraint ls false ls := by
  have hnone : (["CONSTRAINT", "PRIMARY", "UNIQUE", "CHECK", "FOREIGN"].any
      fun k => isKeyword k (front ls)) = false := by
    rw [List.any_eq_false, hfront]
    intro k hk hkeyword
    rw [isReserved, List.any_eq_false] at hw
    have hreserved : ∀ k ∈ ["CONSTRAINT", "PRIMARY", "UNIQUE", "CHECK", "FOREIGN"],
        k ∈ reservedWords := by decide
    exact hw k (hreserved k hk) hkeyword
  refine reads_peek.bind ?_
  rw [hnone]
  exact reads_pure false

/-- Columns with their commas are read if each of them is. -/
theorem reads_columnDefinitions {items : List (List Lexeme × ColumnDefinition)} (hne : items ≠ [])
    (hitems : ∀ p ∈ items, ∀ rest, endsItem (front rest) →
      Reads columnDefinition (p.1 ++ rest) (p.2, none) rest)
    (hwords : ∀ p ∈ items, ∃ gap w others, p.1 = wordAt gap w :: others ∧ isReserved w = false)
    {fuel : Nat} (hf : items.length ≤ fuel) (hrest : front rest = .symbol ")") :
    Reads (columnDefinitions fuel) (List.intercalate [markAt [] ','] (items.map (·.1)) ++ rest)
      (items.map (·.2), none, false) rest := by
  induction items generalizing fuel with
  | nil => exact absurd rfl hne
  | cons p items ih =>
    obtain ⟨fuel, rfl⟩ : ∃ n, fuel = n + 1 := ⟨fuel - 1, by simp at hf; omega⟩
    rw [columnDefinitions]
    have hfirst := hitems p (by simp)
    cases items with
    | nil =>
      rw [List.map_singleton, List.intercalate_singleton]
      refine (hfirst rest (.inr hrest)).bind ((reads_acceptSymbol_none ?_).bind (reads_pure _))
      rw [hrest]
      decide
    | cons q items =>
      have hlength : (q :: items).length ≤ fuel := by simpa using hf
      have hmore := ih (by simp) (fun r hr => hitems r (by simp [hr]))
        (fun r hr => hwords r (by simp [hr])) hlength
      obtain ⟨gap, w, others, hq, hreserved⟩ := hwords q (by simp)
      rw [List.map_cons, List.map_cons, List.intercalate_cons_cons, List.append_assoc,
        List.append_assoc]
      rw [List.map_cons] at hmore
      refine (hfirst _ (.inl rfl)).bind ((reads_acceptSymbol rfl).bind ?_)
      have hfront : front (List.intercalate [markAt [] ','] (q.1 :: items.map (·.1)) ++ rest) =
          .word w := by
        rw [hq]
        cases items.map (·.1) with
        | nil => rw [List.intercalate_singleton]; rfl
        | cons r others => rw [List.intercalate_cons_cons]; rfl
      have hconstraint := reads_beginsTableConstraint_none hreserved hfront
      exact hconstraint.bind (hmore.bind (reads_pure _))

/-! ## Tables -/

/-- The lexemes behind the parenthesis of a table, its columns one after the other. -/
def itemLexemes (columns : List (List Lexeme)) : List Lexeme :=
  List.intercalate [markAt [] ','] columns ++ [markAt ['\n'] ')']

/-- The lexemes of a table from its name on. -/
def tableLexemes (name : String) (columns : List (List Lexeme)) : List Lexeme :=
  wordAt [' '] name :: markAt [' '] '(' :: itemLexemes columns

/-- The lexemes of a table definition that is skipped if the table is there. -/
def definitionLexemes (gap : List Char) (name : String) (columns : List (List Lexeme)) :
    List Lexeme :=
  wordAt gap "CREATE" :: wordAt [' '] "TABLE" :: wordAt [' '] "IF" :: wordAt [' '] "NOT" ::
    wordAt [' '] "EXISTS" :: (tableLexemes name columns ++ [markAt [] ';'])

/-- The definition of a table with these columns. -/
def plainDefinition (name : String) (items : List (List Lexeme × ColumnDefinition)) :
    TableDefinition where
  name := ⟨none, name⟩
  isTemporary := false
  ifNotExists := true
  columns := items.map (·.2)
  constraints := []
  withoutRowid := false
  source := String.ofList (sourceOf (tableLexemes name (items.map (·.1))))

/-- **A table definition is read back**, if each of its columns is. -/
theorem reads_createTable {name : String} {items : List (List Lexeme × ColumnDefinition)}
    (hname : isReserved name = false) (hif : isKeyword "IF" (.word name) = false) (hne : items ≠ [])
    (hitems : ∀ p ∈ items, ∀ rest, endsItem (front rest) →
      Reads columnDefinition (p.1 ++ rest) (p.2, none) rest)
    (hwords : ∀ p ∈ items, ∃ gap w others, p.1 = wordAt gap w :: others ∧ isReserved w = false) :
    Reads statement (definitionLexemes gap name (items.map (·.1)) ++ rest)
      (.createTable (plainDefinition name items)) rest := by
  have hobject : ∀ ls, Reads newObjectName (wordAt [' '] name :: markAt [' '] '(' :: ls) ⟨none, name⟩
      (markAt [' '] '(' :: ls) := fun ls =>
    Takes.reads (takes_newObjectName hname hif (by decide)) plain_newObjectName
      (List.suffix_cons ..)
  have hcolumns : ∀ fuel, items.length ≤ fuel → Reads (columnDefinitions fuel)
      (itemLexemes (items.map (·.1)) ++ markAt [] ';' :: rest) (items.map (·.2), none, false)
      (markAt ['\n'] ')' :: markAt [] ';' :: rest) := by
    intro fuel hf
    rw [itemLexemes, List.append_assoc]
    exact reads_columnDefinitions hne hitems hwords hf rfl
  have hlength : ∀ ls, items.length ≤ (itemLexemes (items.map (·.1)) ++ ls).length := by
    intro ls
    have hitem : ∀ item ∈ items.map (·.1), item ≠ [] := by
      intro item hitem
      obtain ⟨p, hp, rfl⟩ := List.mem_map.1 hitem
      obtain ⟨gap, w, others, heq, -⟩ := hwords p hp
      rw [heq]
      exact List.cons_ne_nil _ _
    have := length_le_intercalate [markAt [] ','] hitem
    simp only [itemLexemes, List.length_append, List.length_map] at this ⊢
    omega
  have hcreate : Reads (createTable false)
      ([wordAt [' '] "IF", wordAt [' '] "NOT", wordAt [' '] "EXISTS"] ++
        (tableLexemes name (items.map (·.1)) ++ markAt [] ';' :: rest))
      (.createTable (plainDefinition name items)) (markAt [] ';' :: rest) := by
    have hexists : Reads ifNotExists ([wordAt [' '] "IF", wordAt [' '] "NOT",
        wordAt [' '] "EXISTS"] ++ (tableLexemes name (items.map (·.1)) ++ markAt [] ';' :: rest)) true
        (tableLexemes name (items.map (·.1)) ++ markAt [] ';' :: rest) :=
      Takes.reads takes_ifNotExists plain_ifNotExists (List.suffix_append ..)
    refine hexists.bind (reads_remaining.bind ((hobject _).bind ?_))
    refine (reads_expectSymbol rfl).bind (reads_enoughFuel.bind ?_)
    refine (hcolumns _ ?_).bind ((reads_pure []).bind ?_)
    · have hfuel : ∀ n, n ≤ 6 * n + 12 := by omega
      exact (hlength _).trans (hfuel _)
    refine (reads_expectSymbol rfl).bind (reads_remaining.bind ?_)
    refine (reads_accept_none rfl).bind (reads_remaining.bind ?_)
    have hsource := take_length_sub (tableLexemes name (items.map (·.1))) (markAt [] ';' :: rest)
    refine congrArg some (Prod.ext ?_ rfl)
    simp only [plainDefinition, Bool.false_eq_true, if_false, Option.isSome_none, hsource]
  have hcommand : Reads command (definitionLexemes gap name (items.map (·.1)) ++ rest)
      (.createTable (plainDefinition name items)) (markAt [] ';' :: rest) := by
    have hword : ∀ {k w : String} {gap : List Char} {b : Bool}, isKeyword k (.word w) = b →
        isKeyword k (wordAt gap w).token = b := id
    refine (reads_accept (hword (by decide))).bind ?_
    iterate 4 refine (reads_accept_none (hword (by decide))).bind ?_
    refine (reads_accept (hword (by decide))).bind ?_
    have hrest : tableLexemes name (items.map (·.1)) ++ [markAt [] ';'] ++ rest =
        tableLexemes name (items.map (·.1)) ++ markAt [] ';' :: rest := by
      rw [List.append_assoc, List.singleton_append]
    rw [← hrest] at hcreate
    exact hcreate
  have hend : Reads statementEnd (markAt [] ';' :: rest) () rest := rfl
  exact hcommand.bind (hend.bind (reads_pure _))

end Definitions

/-! ## Indexes -/

section Indexes

variable {t : Token} {ts : List Token} {columns : List String}

/-- A name that ends a term of a key is the column. -/
theorem takes_keyTerm {c : String} (hc : isReserved c = false) (hword : isOperandWord c = false)
    (ht : endsItem t) :
    Takes keyTerm (.word c :: t :: ts) ⟨.name none c false, false⟩ (t :: ts) := by
  have hexpr : Takes expr (.word c :: t :: ts) (.name none c false) (t :: ts) :=
    takes_enoughFuel.bind (takes_columnName hc hword ht)
  refine hexpr.bind ((takes_direction_none ?_ ?_).bind (takes_pure _))
  all_goals rcases ht with rfl | rfl <;> rfl

/-- The terms of a key over columns. -/
def columnTerms (columns : List String) : List KeyTerm :=
  columns.map fun c => ⟨.name none c false, false⟩

theorem takes_keyTerms (hne : columns ≠ [])
    (hc : ∀ c ∈ columns, isReserved c = false ∧ isOperandWord c = false) :
    Takes keyTerms (separated (columns.map fun c => [.word c]) ++ .symbol ")" :: ts)
      (columnTerms columns) (.symbol ")" :: ts) := by
  have hterms : ∀ fuel, columns.length ≤ fuel → Takes (commaList keyTerm fuel)
      (separated (columns.map fun c => [.word c]) ++ .symbol ")" :: ts) (columnTerms columns)
      (.symbol ")" :: ts) := fun fuel hf =>
    takes_commaList hne (fun c hmem _ _ ht => takes_keyTerm (hc c hmem).1 (hc c hmem).2 ht) hf
      (by decide)
  refine takes_enoughFuel.bind (hterms _ ?_)
  have := @length_le_separated (columns.map fun c => [.word c]) (by simp)
  simp only [List.length_map, List.length_append] at this ⊢
  omega

/-- The words in front of the name of an index. -/
def indexWords (isUnique ifNotExists : Bool) : List String :=
  "CREATE" :: (if isUnique then ["UNIQUE"] else []) ++ "INDEX" ::
    if ifNotExists then ["IF", "NOT", "EXISTS"] else []

/-- The tokens of an index over columns. -/
def indexTokens (isUnique ifNotExists : Bool) (index table : String) (columns : List String) :
    List Token :=
  (indexWords isUnique ifNotExists).map .word ++ .word index :: .word "ON" :: .word table ::
    .symbol "(" :: (separated (columns.map fun c => [.word c]) ++ [.symbol ")", .symbol ";"])

/-- **An index over columns is read back.** -/
theorem takes_createIndex (isUnique ifNotExists : Bool) {index table : String}
    (hindex : isReserved index = false) (hif : isKeyword "IF" (.word index) = false)
    (htable : isReserved table = false) (hne : columns ≠ [])
    (hc : ∀ c ∈ columns, isReserved c = false ∧ isOperandWord c = false) :
    Takes statement (indexTokens isUnique ifNotExists index table columns ++ ts)
      (.createIndex ⟨⟨none, index⟩, isUnique, ifNotExists, table, columnTerms columns⟩) ts := by
  generalize htail : (Token.symbol "(" :: (separated (columns.map fun c => [.word c]) ++
    [.symbol ")", .symbol ";"])) = tail
  have hterms : Takes (parenthesized keyTerms) (tail ++ ts) (columnTerms columns)
      (.symbol ";" :: ts) := by
    subst htail
    rw [List.cons_append, List.append_assoc]
    exact takes_expectSymbol.bind ((takes_keyTerms hne hc).bind
      (takes_expectSymbol.bind (takes_pure _)))
  have hnamed : ∀ ifNotExists : Bool, Takes (do
      let index ← newObjectName
      expect ["ON"]
      let table ← name
      let terms ← parenthesized keyTerms
      return Statement.createIndex ⟨index, isUnique, ifNotExists, table, terms⟩)
      (.word index :: .word "ON" :: .word table :: (tail ++ ts))
      (.createIndex ⟨⟨none, index⟩, isUnique, ifNotExists, table, columnTerms columns⟩)
      (.symbol ";" :: ts) := fun _ =>
    (takes_newObjectName hindex hif (by decide)).bind ((takes_expect (by decide)).bind
      ((takes_name htable).bind (hterms.bind (takes_pure _))))
  have hcreate : Takes (createIndex isUnique)
      ((if ifNotExists then ["IF", "NOT", "EXISTS"] else []).map .word ++
        .word index :: .word "ON" :: .word table :: (tail ++ ts))
      (.createIndex ⟨⟨none, index⟩, isUnique, ifNotExists, table, columnTerms columns⟩)
      (.symbol ";" :: ts) := by
    cases ifNotExists with
    | true => exact takes_ifNotExists.bind (hnamed true)
    | false => exact (takes_ifNotExists_none hif).bind (hnamed false)
  have hcommand : Takes command (indexTokens isUnique ifNotExists index table columns ++ ts)
      (.createIndex ⟨⟨none, index⟩, isUnique, ifNotExists, table, columnTerms columns⟩)
      (.symbol ";" :: ts) := by
    have htokens : indexTokens isUnique ifNotExists index table columns ++ ts =
        .word "CREATE" :: ((if isUnique then ["UNIQUE"] else []).map .word ++ .word "INDEX" ::
          ((if ifNotExists then ["IF", "NOT", "EXISTS"] else []).map .word ++
            .word index :: .word "ON" :: .word table :: (tail ++ ts))) := by
      subst htail
      simp [indexTokens, indexWords]
    rw [htokens]
    refine (takes_accept (by decide)).bind ?_
    cases isUnique with
    | true => exact (takes_acceptAll ["UNIQUE", "INDEX"]).bind hcreate
    | false => exact (takes_accept_none (by decide)).bind ((takes_accept (by decide)).bind hcreate)
  have hend : Takes statementEnd (.symbol ";" :: ts) () ts := takes_peek.bind takes_skip
  exact hcommand.bind (hend.bind (takes_pure _))

end Indexes

end Tablewright.Sql.Grammar
