import Tablewright.Proofs.Sql.Conditions

/-!
# What the grammar takes

A reader takes lexemes off the front of those it is given. The keyword `AUTOINCREMENT` is reserved,
so a reader that takes it off has read a key: `Accounts g p` says that where `g` takes the keyword,
what it reads satisfies `p`, and `Plain g` that it never takes it. All readers of expressions are
plain (`plain_expr`), by induction on the fuel with one lemma for each of them.
-/

namespace Tablewright.Sql

/-- Whether a lexeme is the keyword. -/
def Lexeme.isIncrement (l : Lexeme) : Bool :=
  Grammar.isKeyword "AUTOINCREMENT" l.token

namespace Grammar

variable {α β : Type}

/-- From these lexemes, the reader takes some off the front, and the keyword among them only if what
it reads satisfies `p`. -/
def AccountsAt (g : Grammar α) (ls : List Lexeme) (p : α → Prop) : Prop :=
  ∀ a rest, g.run ls = some (a, rest) →
    ∃ taken, ls = taken ++ rest ∧ ∀ l ∈ taken, l.isIncrement = true → p a

/-- The reader takes the keyword only if what it reads satisfies `p`. -/
def Accounts (g : Grammar α) (p : α → Prop) : Prop :=
  ∀ ls, AccountsAt g ls p

/-- The reader does not take the keyword. -/
def Plain (g : Grammar α) : Prop :=
  Accounts g fun _ => False

/-- Whatever the reader reads satisfies `p`. -/
def Ensures (g : Grammar α) (p : α → Prop) : Prop :=
  ∀ ls a rest, g.run ls = some (a, rest) → p a

/-! ## Rules -/

section Rules

variable {g g' : Grammar α} {f : α → Grammar β} {ls : List Lexeme} {p : α → Prop} {q : β → Prop}

theorem run_bind_eq_some {b : β} {rest : List Lexeme} :
    (g >>= f).run ls = some (b, rest) ↔
      ∃ a middle, g.run ls = some (a, middle) ∧ (f a).run middle = some (b, rest) := by
  rw [StateT.run_bind, Option.bind_eq_bind, Option.bind_eq_some_iff]
  constructor
  · rintro ⟨⟨a, middle⟩, hg, hf⟩
    exact ⟨a, middle, hg, hf⟩
  · rintro ⟨a, middle, hg, hf⟩
    exact ⟨⟨a, middle⟩, hg, hf⟩

theorem Ensures.bind (hf : ∀ a, Ensures (f a) q) : Ensures (g >>= f) q := by
  intro ls b rest h
  obtain ⟨a, middle, -, h⟩ := run_bind_eq_some.1 h
  exact hf a middle b rest h

theorem ensures_pure {a : α} (h : p a) : Ensures (pure a) p := by
  intro ls b rest hrun
  cases hrun
  exact h

/-- A keyword taken by the first reader has to be accounted for by the second. -/
theorem AccountsAt.bind (hg : AccountsAt g ls p) (hf : ∀ a, Accounts (f a) q)
    (hlink : ∀ a, p a → Ensures (f a) q) : AccountsAt (g >>= f) ls q := by
  intro b rest h
  obtain ⟨a, middle, hrun, hrun'⟩ := run_bind_eq_some.1 h
  obtain ⟨first, rfl, hfirst⟩ := hg a middle hrun
  obtain ⟨second, rfl, hsecond⟩ := hf a middle b rest hrun'
  refine ⟨first ++ second, (List.append_assoc ..).symm, fun l hl hincrement => ?_⟩
  rcases List.mem_append.1 hl with hl | hl
  · exact hlink a (hfirst l hl hincrement) _ _ _ hrun'
  · exact hsecond l hl hincrement

theorem Accounts.bind (hg : Accounts g p) (hf : ∀ a, Accounts (f a) q)
    (hlink : ∀ a, p a → Ensures (f a) q) : Accounts (g >>= f) q :=
  fun ls => (hg ls).bind hf hlink

/-- A plain reader leaves everything to the next one. -/
theorem Plain.bind (hg : Plain g) (hf : ∀ a, Accounts (f a) q) : Accounts (g >>= f) q :=
  Accounts.bind hg hf fun _ h => h.elim

theorem accountsAt_pure {a : α} : AccountsAt (pure a) ls p := by
  intro b rest h
  cases h
  exact ⟨[], rfl, by simp⟩

theorem accounts_pure {a : α} : Accounts (pure a) p :=
  fun _ => accountsAt_pure

theorem accountsAt_failure : AccountsAt (failure : Grammar α) ls p := by
  intro b rest h
  cases h

theorem accounts_failure : Accounts (failure : Grammar α) p :=
  fun _ => accountsAt_failure

theorem plain_pure {a : α} : Plain (pure a) :=
  accounts_pure

theorem plain_failure : Plain (failure : Grammar α) :=
  accounts_failure

theorem Accounts.ite {c : Prop} [Decidable c] (hg : Accounts g p) (hg' : Accounts g' p) :
    Accounts (if c then g else g') p := by
  split
  · exact hg
  · exact hg'

/-- A plain reader may be asked to account for anything. -/
theorem Plain.accounts (hg : Plain g) : Accounts g p := by
  intro ls a rest h
  obtain ⟨taken, hls, htaken⟩ := hg ls a rest h
  exact ⟨taken, hls, fun l hl hincrement => (htaken l hl hincrement).elim⟩

end Rules

/-! ## Looking and skipping -/

section Basic

variable {f : Token → Grammar β} {q : β → Prop} {ls : List Lexeme}

theorem accountsAt_peek (h : AccountsAt (f (front ls)) ls q) : AccountsAt (peek >>= f) ls q :=
  h

theorem accountsAt_get {f : List Lexeme → Grammar β} (h : AccountsAt (f ls) ls q) :
    AccountsAt (get >>= f) ls q :=
  h

theorem plain_peek : Plain peek :=
  fun ls _ rest h => by
    cases h
    exact ⟨[], rfl, by simp⟩

theorem plain_remaining : Plain remaining :=
  fun ls _ rest h => by
    cases h
    exact ⟨[], rfl, by simp⟩

/-- Whether a token is not the keyword. -/
def isOther (t : Token) : Prop :=
  isKeyword "AUTOINCREMENT" t = false

theorem accountsAt_skip {f : Unit → Grammar β} (hfront : isOther (front ls))
    (h : AccountsAt (f ()) (ls.drop 1) q) : AccountsAt (skip >>= f) ls q := by
  intro b rest hrun
  obtain ⟨taken, hls, htaken⟩ := h b rest hrun
  cases ls with
  | nil => exact ⟨taken, hls, htaken⟩
  | cons l ls =>
    refine ⟨l :: taken, congrArg (l :: ·) hls, fun m hm hincrement => ?_⟩
    rcases List.mem_cons.1 hm with rfl | hm
    · have : m.isIncrement = false := hfront
      rw [hincrement] at this
      cases this
    · exact htaken m hm hincrement

theorem isOther_of_isReserved {w : String} (h : isReserved w = false) : isOther (.word w) := by
  rw [isReserved, List.any_eq_false] at h
  exact Bool.eq_false_iff.2 (h "AUTOINCREMENT" (by decide))

/-- A word that is another one in upper case is not the keyword. -/
theorem isOther_of_upperAscii {w k : String} (h : Text.upperAscii w = k)
    (hk : Text.sameName k "AUTOINCREMENT" = false) : isOther (.word w) := by
  refine Bool.eq_false_iff.2 fun hw => Bool.eq_false_iff.1 hk (Text.sameName_iff.2 ?_)
  rw [← h, lowerAscii_upperAscii]
  exact Text.sameName_iff.1 hw

theorem isOther_of_sameName {w k : String} (h : Text.sameName w k = true)
    (hk : Text.sameName k "AUTOINCREMENT" = false) : isOther (.word w) := by
  refine Bool.eq_false_iff.2 fun hw => Bool.eq_false_iff.1 hk (Text.sameName_iff.2 ?_)
  rw [← Text.sameName_iff.1 h]
  exact Text.sameName_iff.1 hw

theorem isOther_of_isKeyword {k : String} {t : Token} (h : isKeyword k t = true)
    (hk : Text.sameName k "AUTOINCREMENT" = false) : isOther t := by
  cases t with
  | word w => exact isOther_of_sameName h hk
  | _ => rfl

theorem isOther_of_nameOf? {t : Token} {n : String} (h : nameOf? t = some n) : isOther t := by
  cases t with
  | word w =>
    refine isOther_of_isReserved (Bool.eq_false_iff.2 fun hw => ?_)
    simp [nameOf?, hw] at h
  | _ => rfl

theorem isOther_of_plainNameOf? {t : Token} {n : String} (h : plainNameOf? t = some n) :
    isOther t := by
  cases t with
  | word w =>
    refine isOther_of_isReserved (Bool.eq_false_iff.2 fun hw => ?_)
    simp [plainNameOf?, hw] at h
  | _ => rfl

end Basic

/-! ## Keywords and symbols -/

/-- Whether none of the keywords is `AUTOINCREMENT`. -/
def areOther (keywords : List String) : Bool :=
  keywords.all fun k => !Text.sameName k "AUTOINCREMENT"

theorem run_accept (keywords : List String) (ls : List Lexeme) : (accept keywords).run ls =
    some (if beginWith keywords ls then (true, ls.drop keywords.length) else (false, ls)) := by
  rw [accept]
  simp only [StateT.run_bind, StateT.run_get, Option.pure_def, Option.bind_eq_bind, Option.bind_some]
  split <;> simp

theorem run_acceptSymbol (s : String) (ls : List Lexeme) : (acceptSymbol s).run ls =
    some (if front ls = .symbol s then (true, ls.drop 1) else (false, ls)) := by
  by_cases h : front ls = .symbol s <;> simp [acceptSymbol, peek, skip, h]

/-- The lexemes that keywords begin with are those keywords. -/
theorem isKeyword_of_beginWith {keywords : List String} {ls : List Lexeme}
    (h : beginWith keywords ls = true) :
    ∀ l ∈ ls.take keywords.length, ∃ k ∈ keywords, isKeyword k l.token = true := by
  induction keywords generalizing ls with
  | nil => simp
  | cons k ks ih =>
    simp only [beginWith, Bool.and_eq_true] at h
    cases ls with
    | nil => simp
    | cons l ls =>
      rw [List.length_cons, List.take_succ_cons]
      intro m hm
      rcases List.mem_cons.1 hm with rfl | hm
      · exact ⟨k, List.mem_cons_self, h.1⟩
      · obtain ⟨k', hk', hm⟩ := ih h.2 m hm
        exact ⟨k', List.mem_cons_of_mem _ hk', hm⟩

theorem plain_accept {keywords : List String} (hk : areOther keywords = true) :
    Plain (accept keywords) := by
  intro ls b rest h
  rw [run_accept, Option.some.injEq] at h
  split at h
  · rename_i hbegin
    cases h
    refine ⟨_, (List.take_append_drop ..).symm, fun l hl hincrement => ?_⟩
    obtain ⟨k, hkeyword, hl⟩ := isKeyword_of_beginWith hbegin l hl
    have hother : isOther l.token :=
      isOther_of_isKeyword hl (by simpa using List.all_eq_true.1 hk k hkeyword)
    exact Bool.eq_false_iff.1 hother hincrement
  · cases h
    exact ⟨[], rfl, by simp⟩

theorem plain_expect {keywords : List String} (hk : areOther keywords = true) :
    Plain (expect keywords) :=
  (plain_accept hk).bind fun _ => .ite accounts_failure accounts_pure

theorem plain_acceptSymbol (s : String) : Plain (acceptSymbol s) := by
  intro ls
  refine accountsAt_peek ?_
  split
  · rename_i hfront
    exact accountsAt_skip (by rw [hfront]; rfl) accountsAt_pure
  · exact accountsAt_pure

theorem plain_expectSymbol (s : String) : Plain (expectSymbol s) :=
  (plain_acceptSymbol s).bind fun _ => .ite accounts_failure accounts_pure

/-! ## Names and types -/

theorem plain_name : Plain name := by
  intro ls
  refine accountsAt_peek ?_
  split
  · rename_i hfront
    exact accountsAt_skip (by rw [hfront]; rfl) accountsAt_pure
  · split
    · rename_i hname
      exact accountsAt_skip (isOther_of_nameOf? hname) accountsAt_pure
    · exact accountsAt_failure

theorem plain_tableName : Plain tableName :=
  plain_name.bind fun _ => (plain_acceptSymbol ".").bind fun _ =>
    .ite (plain_name.bind fun _ => accounts_pure) accounts_pure

theorem plain_commaList {item : Grammar α} (h : Plain item) (fuel : Nat) :
    Plain (commaList item fuel) := by
  induction fuel with
  | zero => exact accounts_failure
  | succ fuel ih =>
    exact h.bind fun _ => (plain_acceptSymbol ",").bind fun _ =>
      .ite (ih.bind fun _ => accounts_pure) accounts_pure

theorem plain_parenthesized {inner : Grammar α} (h : Plain inner) : Plain (parenthesized inner) :=
  (plain_expectSymbol "(").bind fun _ => h.bind fun _ =>
    (plain_expectSymbol ")").bind fun _ => accounts_pure

theorem plain_typeWords (fuel : Nat) : Plain (typeWords fuel) := by
  induction fuel with
  | zero => exact accounts_failure
  | succ fuel ih =>
    intro ls
    rw [typeWords]
    refine accountsAt_get ?_
    cases ls with
    | nil => exact accountsAt_pure
    | cons l ls =>
      dsimp only [List.head?_cons]
      split
      · exact accountsAt_pure
      · rename_i hword
        simp only [Bool.or_eq_true, Option.isNone_iff_eq_none, not_or] at hword
        obtain ⟨n, hn⟩ := Option.ne_none_iff_exists'.1 hword.2
        exact accountsAt_skip (isOther_of_plainNameOf? hn) ((ih.bind fun _ => accounts_pure) _)

theorem plain_unsignedNumber : Plain (do
    match ← peek with
    | .integer _ => skip
    | .decimal _ => skip
    | _ => failure) := by
  intro ls
  refine accountsAt_peek ?_
  split
  · rename_i hfront
    exact accountsAt_skip (f := pure) (by rw [hfront]; rfl) accountsAt_pure
  · rename_i hfront
    exact accountsAt_skip (f := pure) (by rw [hfront]; rfl) accountsAt_pure
  · exact accountsAt_failure

theorem plain_signedNumber : Plain signedNumber :=
  (plain_acceptSymbol "+").bind fun _ =>
    .ite ((plain_acceptSymbol "-").bind fun _ => plain_unsignedNumber) plain_unsignedNumber

theorem plain_typeSource (fuel : Nat) : Plain (typeSource fuel) := by
  have hend : ∀ start : List Lexeme, Plain (do
      return sourceOf (start.take (start.length - (← remaining).length))) := fun start =>
    plain_remaining.bind fun _ => accounts_pure
  refine plain_remaining.bind fun start => (plain_typeWords fuel).bind fun words => .ite
    accounts_pure ((plain_acceptSymbol "(").bind fun _ => .ite ?_ (hend start))
  exact plain_signedNumber.bind fun _ => (plain_acceptSymbol ",").bind fun _ => .ite
    (plain_signedNumber.bind fun _ => (plain_expectSymbol ")").bind fun _ => hend start)
    ((plain_expectSymbol ")").bind fun _ => hend start)

theorem plain_raiseKind : Plain raiseKind :=
  (plain_accept (by decide)).bind fun _ => .ite accounts_pure <|
    (plain_accept (by decide)).bind fun _ => .ite accounts_pure <|
      (plain_expect (by decide)).bind fun _ => accounts_pure

theorem plain_aliasName? : Plain aliasName? := by
  refine (plain_accept (by decide)).bind fun _ => .ite (plain_name.bind fun _ => accounts_pure) ?_
  intro ls
  refine accountsAt_peek ?_
  split
  · rename_i hname
    exact accountsAt_skip (isOther_of_plainNameOf? hname) accountsAt_pure
  · exact accountsAt_pure

theorem plain_joinWord : Plain joinWord :=
  (plain_acceptSymbol ",").bind fun _ => .ite accounts_pure <|
    (plain_accept (by decide)).bind fun _ => .ite accounts_pure <|
    (plain_accept (by decide)).bind fun _ => .ite accounts_pure <|
    (plain_accept (by decide)).bind fun _ => .ite accounts_pure <|
    (plain_accept (by decide)).bind fun _ => .ite accounts_pure <|
    (plain_accept (by decide)).bind fun _ => .ite accounts_pure accounts_pure

/-! ## Expressions and queries -/

/-- With this much fuel, the readers of expressions and queries are plain. -/
structure PlainAt (fuel : Nat) : Prop where
  exprAt : ∀ level, Plain (exprAt fuel level)
  operators : ∀ level left, Plain (operators fuel level left)
  equality : ∀ left, Plain (equality fuel left)
  membership : ∀ left, Plain (membership fuel left)
  arguments : Plain (arguments fuel)
  expressions : Plain (expressions fuel)
  operand : Plain (operand fuel)
  column : Plain (column fuel)
  choice : Plain (choice fuel)
  whenBranches : ∀ subject, Plain (whenBranches fuel subject)
  query : Plain (query fuel)
  resultColumns : Plain (resultColumns fuel)
  resultColumn : Plain (resultColumn fuel)
  source : ∀ isLeft, Plain (source fuel isLeft)
  joined : Plain (joined fuel)
  orderTerms : Plain (orderTerms fuel)

section Step

variable {fuel : Nat} (h : PlainAt fuel)
include h

theorem plain_exprAt (level : Nat) : Plain (exprAt (fuel + 1) level) := by
  rw [exprAt]
  exact h.operand.bind fun left => h.operators level left

-- Only the words that are compared with a keyword are skipped, and symbols.
theorem plain_operators (level : Nat) (left : Expr) : Plain (operators (fuel + 1) level left) := by
  intro ls
  rw [operators]
  refine accountsAt_peek ?_
  have hmore : ∀ (binding : Nat) (e : Expr → Expr) ls, AccountsAt (do
      operators fuel level (e (← exprAt fuel binding))) ls fun _ => False := fun binding e ls =>
    ((h.exprAt binding).bind fun right => h.operators level (e right)) ls
  split
  · rename_i s hfront
    have hother : isOther (front ls) := by rw [hfront]; rfl
    split
    · exact accountsAt_skip hother (hmore 11 _ _)
    · split
      · split
        · exact accountsAt_skip hother (hmore _ _ _)
        · exact accountsAt_pure
      · exact accountsAt_pure
  · rename_i w hfront
    have hother : ∀ k, Text.sameName w k = true → Text.sameName k "AUTOINCREMENT" = false →
        isOther (front ls) := fun k hw hk => by rw [hfront]; exact isOther_of_sameName hw hk
    split
    · rename_i hw
      exact accountsAt_skip (hother "OR" (Bool.and_eq_true_iff.1 hw).2 (by decide)) (hmore 2 _ _)
    split
    · rename_i hw
      exact accountsAt_skip (hother "AND" (Bool.and_eq_true_iff.1 hw).2 (by decide)) (hmore 3 _ _)
    split
    · rename_i hw
      refine accountsAt_skip (hother "COLLATE" (Bool.and_eq_true_iff.1 hw).2 (by decide)) ?_
      refine accountsAt_peek ?_
      split
      · rename_i hname
        exact accountsAt_skip (isOther_of_plainNameOf? hname) (h.operators level _ _)
      · exact accountsAt_failure
    split
    · refine ((h.equality left).bind fun e => ?_) ls
      split
      · exact h.operators level _
      · exact accounts_pure
    · exact accountsAt_pure
  · exact accountsAt_pure

theorem plain_equality (left : Expr) : Plain (equality (fuel + 1) left) := by
  have hright : ∀ e : Expr → Option Expr, Plain (do return e (← exprAt fuel 5)) := fun e =>
    (h.exprAt 5).bind fun _ => accounts_pure
  rw [equality]
  iterate 3 refine (plain_accept (by decide)).bind fun _ => .ite accounts_pure ?_
  iterate 4 refine (plain_accept (by decide)).bind fun _ => .ite (hright _) ?_
  intro ls
  refine accountsAt_get (accountsAt_peek ?_)
  extract_lets negated behind
  have hbehind : Plain (behind ()) := by
    refine (plain_accept (by decide)).bind fun _ => .ite ?_ ?_
    · exact (h.exprAt 3).bind fun _ => (plain_expect (by decide)).bind fun _ => hright _
    refine (plain_accept (by decide)).bind fun _ => .ite ?_ ?_
    · exact (h.membership left).bind fun _ => accounts_pure
    intro ls
    refine accountsAt_peek ?_
    split
    · exact accountsAt_pure
    · rename_i hfind
      have hword := List.find?_some hfind
      have hother : ∀ w ∈ callWords, Text.sameName w.1 "AUTOINCREMENT" = false := by decide
      refine accountsAt_skip (isOther_of_isKeyword hword
        (hother _ (List.mem_of_find?_eq_some hfind))) ?_
      exact ((h.exprAt 5).bind fun _ => (plain_accept (by decide)).bind fun _ =>
        .ite (hright _) accounts_pure) _
  split
  · rename_i hnot
    exact accountsAt_skip (isOther_of_isKeyword (Bool.and_eq_true_iff.1 hnot).1 (by decide))
      (hbehind _)
  · exact hbehind _

theorem plain_membership (left : Expr) : Plain (membership (fuel + 1) left) := by
  rw [membership]
  refine (plain_acceptSymbol "(").bind fun _ => .ite ?_ ?_
  · refine plain_peek.bind fun _ => .ite ?_ (h.arguments.bind fun _ => accounts_pure)
    exact h.query.bind fun _ => (plain_expectSymbol ")").bind fun _ => accounts_pure
  · exact plain_tableName.bind fun _ => accounts_pure

theorem plain_arguments : Plain (arguments (fuel + 1)) := by
  rw [arguments]
  exact (plain_acceptSymbol ")").bind fun _ => .ite accounts_pure
    (h.expressions.bind fun _ => (plain_expectSymbol ")").bind fun _ => accounts_pure)

theorem plain_expressions : Plain (expressions (fuel + 1)) := by
  rw [expressions]
  exact (h.exprAt 0).bind fun _ => (plain_acceptSymbol ",").bind fun _ =>
    .ite (h.expressions.bind fun _ => accounts_pure) accounts_pure

theorem plain_parenthesis : Plain (do
    if isKeyword "SELECT" (← peek) then
      let q ← query fuel
      expectSymbol ")"
      return .subquery q
    let items ← expressions fuel
    expectSymbol ")"
    match items with
    | [e] => return e
    | items => return .row items) := by
  refine plain_peek.bind fun _ => .ite ?_ ?_
  · exact h.query.bind fun _ => (plain_expectSymbol ")").bind fun _ => accounts_pure
  · refine h.expressions.bind fun items => (plain_expectSymbol ")").bind fun _ => ?_
    split <;> exact accounts_pure

theorem plain_operand_word {ls : List Lexeme} {w : String} (hfront : front ls = .word w) :
    AccountsAt (do
      match Text.upperAscii w with
      | "NOT" => skip; return .unary .not (← exprAt fuel 3)
      | "NULL" => skip; return .null
      | "EXISTS" =>
        skip
        expectSymbol "("
        let q ← query fuel
        expectSymbol ")"
        return .exists q
      | "CASE" => skip; choice fuel
      | "CAST" =>
        skip
        expectSymbol "("
        let e ← exprAt fuel 0
        expect ["AS"]
        let type ← typeSource fuel
        expectSymbol ")"
        return .cast e (String.ofList type)
      | "RAISE" =>
        skip
        expectSymbol "("
        if ← accept ["IGNORE"] then
          expectSymbol ")"
          return .raise .ignore .null
        let kind ← raiseKind
        expectSymbol ","
        let message ← exprAt fuel 0
        expectSymbol ")"
        return .raise kind message
      | "CURRENT_DATE" => skip; return .call "current_date" []
      | "CURRENT_TIME" => skip; return .call "current_time" []
      | "CURRENT_TIMESTAMP" => skip; return .call "current_timestamp" []
      | _ => column fuel) ls fun _ => False := by
  have hother : ∀ k, Text.upperAscii w = k → Text.sameName k "AUTOINCREMENT" = false →
      isOther (front ls) := fun k hw hk => by rw [hfront]; exact isOther_of_upperAscii hw hk
  split
  case h_1 hw =>
    exact accountsAt_skip (hother _ hw (by decide)) (((h.exprAt 3).bind fun _ => accounts_pure) _)
  case h_2 hw => exact accountsAt_skip (hother _ hw (by decide)) accountsAt_pure
  case h_3 hw =>
    exact accountsAt_skip (hother _ hw (by decide)) (((plain_expectSymbol "(").bind fun _ =>
      h.query.bind fun _ => (plain_expectSymbol ")").bind fun _ => accounts_pure) _)
  case h_4 hw => exact accountsAt_skip (hother _ hw (by decide)) (h.choice _)
  case h_5 hw =>
    refine accountsAt_skip (hother _ hw (by decide)) (((plain_expectSymbol "(").bind fun _ =>
      (h.exprAt 0).bind fun _ => (plain_expect (by decide)).bind fun _ => ?_) _)
    exact (plain_typeSource fuel).bind fun _ => (plain_expectSymbol ")").bind fun _ => accounts_pure
  case h_6 hw =>
    refine accountsAt_skip (hother _ hw (by decide)) (((plain_expectSymbol "(").bind fun _ =>
      (plain_accept (by decide)).bind fun _ => .ite ?_ ?_) _)
    · exact (plain_expectSymbol ")").bind fun _ => accounts_pure
    · exact plain_raiseKind.bind fun _ => (plain_expectSymbol ",").bind fun _ =>
        (h.exprAt 0).bind fun _ => (plain_expectSymbol ")").bind fun _ => accounts_pure
  case h_7 hw => exact accountsAt_skip (hother _ hw (by decide)) accountsAt_pure
  case h_8 hw => exact accountsAt_skip (hother _ hw (by decide)) accountsAt_pure
  case h_9 hw => exact accountsAt_skip (hother _ hw (by decide)) accountsAt_pure
  case h_10 => exact h.column _

theorem plain_operand : Plain (operand (fuel + 1)) := by
  intro ls
  rw [operand]
  refine accountsAt_peek (accountsAt_get ?_)
  have hsign : ∀ (e : Expr → Expr) ls, AccountsAt (do return e (← exprAt fuel signLevel)) ls
      fun _ => False := fun e ls => ((h.exprAt signLevel).bind fun _ => accounts_pure) ls
  dsimp only
  split
  case h_8 hfront => exact plain_operand_word h hfront
  case h_9 => exact accountsAt_failure
  all_goals
    rename_i hfront
    have hother : isOther (front ls) := by rw [hfront]; rfl
  case h_1 =>
    refine accountsAt_skip hother ?_
    split
    · exact accountsAt_pure
    · exact accountsAt_failure
  case h_2 => exact accountsAt_skip hother accountsAt_pure
  case h_3 => exact accountsAt_skip hother accountsAt_pure
  case h_4 => exact accountsAt_skip hother accountsAt_pure
  case h_5 =>
    split
    · exact h.column _
    · exact accountsAt_skip hother accountsAt_pure
  case h_6 =>
    split
    · exact h.column _
    · exact accountsAt_skip hother accountsAt_pure
  case h_7 =>
    refine accountsAt_skip hother ?_
    split
    · exact hsign _ _
    · exact hsign _ _
    · exact hsign _ _
    · exact plain_parenthesis h _
    · exact accountsAt_failure

theorem plain_column : Plain (column (fuel + 1)) := by
  rw [column]
  refine plain_peek.bind fun _ => plain_name.bind fun _ => (plain_acceptSymbol "(").bind fun _ =>
    .ite ?_ ?_
  · have harguments : ∀ f, Plain (do return Expr.call f (← arguments fuel)) := fun _ =>
      h.arguments.bind fun _ => accounts_pure
    refine (plain_acceptSymbol "*").bind fun _ => .ite ?_ ?_
    · exact (plain_expectSymbol ")").bind fun _ => accounts_pure
    · exact (plain_accept (by decide)).bind fun _ => .ite
        ((plain_accept (by decide)).bind fun _ => harguments _) (harguments _)
  · refine (plain_acceptSymbol ".").bind fun _ => .ite ?_ accounts_pure
    exact plain_name.bind fun _ => (plain_acceptSymbol ".").bind fun _ =>
      .ite (plain_name.bind fun _ => accounts_pure) accounts_pure

theorem plain_choice : Plain (choice (fuel + 1)) := by
  rw [choice]
  refine plain_peek.bind fun _ => ?_
  extract_lets behind
  have hbehind : ∀ subject, Plain (behind subject) := by
    intro subject
    refine (h.whenBranches subject).bind fun branches => ?_
    extract_lets finish behind
    have hfinish : ∀ otherwise, Plain (finish otherwise) := fun _ =>
      (plain_expect (by decide)).bind fun _ => accounts_pure
    have hbehind : ∀ u, Plain (behind u) := fun _ => (plain_accept (by decide)).bind fun _ =>
      .ite ((h.exprAt 0).bind hfinish) (plain_pure.bind hfinish)
    exact .ite (plain_failure.bind hbehind) (hbehind ())
  exact .ite (plain_pure.bind hbehind)
    (Plain.bind ((h.exprAt 0).bind fun _ => accounts_pure) hbehind)

theorem plain_whenBranches (subject : Option Expr) : Plain (whenBranches (fuel + 1) subject) := by
  rw [whenBranches]
  refine (plain_accept (by decide)).bind fun _ => .ite accounts_pure ?_
  exact (h.exprAt 0).bind fun _ => (plain_expect (by decide)).bind fun _ => (h.exprAt 0).bind
    fun _ => (h.whenBranches subject).bind fun _ => accounts_pure

theorem plain_query : Plain (query (fuel + 1)) := by
  rw [query]
  refine (plain_expect (by decide)).bind fun _ => h.resultColumns.bind fun columns =>
    (plain_accept (by decide)).bind fun _ => ?_
  extract_lets behind
  have hbehind : ∀ sources, Plain (behind sources) := by
    intro sources
    refine (plain_accept (by decide)).bind fun _ => ?_
    extract_lets behind
    have hbehind : ∀ condition, Plain (behind condition) := fun _ =>
      (plain_accept (by decide)).bind fun _ => .ite (h.orderTerms.bind fun _ => accounts_pure)
        (plain_pure.bind fun _ => accounts_pure)
    exact .ite ((h.exprAt 0).bind hbehind) (plain_pure.bind hbehind)
  exact .ite ((h.source false).bind fun _ => h.joined.bind fun _ => plain_pure.bind hbehind)
    (plain_pure.bind hbehind)

theorem plain_resultColumns : Plain (resultColumns (fuel + 1)) := by
  rw [resultColumns]
  exact h.resultColumn.bind fun _ => (plain_acceptSymbol ",").bind fun _ =>
    .ite (h.resultColumns.bind fun _ => accounts_pure) accounts_pure

theorem plain_resultColumn : Plain (resultColumn (fuel + 1)) := by
  rw [resultColumn]
  refine (plain_acceptSymbol "*").bind fun _ => .ite accounts_pure ?_
  refine (h.exprAt 0).bind fun e => plain_aliasName?.bind fun _ => ?_
  split
  · exact .ite accounts_pure accounts_pure
  · exact accounts_pure

theorem plain_source (isLeft : Bool) : Plain (source (fuel + 1) isLeft) := by
  rw [source]
  refine plain_tableName.bind fun _ => plain_aliasName?.bind fun _ =>
    (plain_accept (by decide)).bind fun _ => .ite ?_ ?_
  · exact (h.exprAt 0).bind fun _ => accounts_pure
  · exact plain_pure.bind fun _ => accounts_pure

theorem plain_joined : Plain (joined (fuel + 1)) := by
  rw [joined]
  refine plain_joinWord.bind fun word => ?_
  split
  · exact accounts_pure
  · exact (h.source _).bind fun _ => h.joined.bind fun _ => accounts_pure

theorem plain_orderTerms : Plain (orderTerms (fuel + 1)) := by
  rw [orderTerms]
  have hmore : ∀ term : OrderTerm, Plain (do
      if ← acceptSymbol "," then return term :: (← orderTerms fuel)
      return [term]) := fun _ =>
    (plain_acceptSymbol ",").bind fun _ =>
      .ite (h.orderTerms.bind fun _ => accounts_pure) accounts_pure
  exact (h.exprAt 0).bind fun _ => (plain_accept (by decide)).bind fun _ =>
    .ite ((plain_accept (by decide)).bind fun _ => hmore _) (hmore _)

end Step

/-- **Expressions and queries are plain**, whatever the fuel. -/
theorem plainAt (fuel : Nat) : PlainAt fuel := by
  induction fuel with
  | zero => constructor <;> intros <;> exact accounts_failure
  | succ fuel h =>
    exact {
      exprAt := plain_exprAt h
      operators := plain_operators h
      equality := plain_equality h
      membership := plain_membership h
      arguments := plain_arguments h
      expressions := plain_expressions h
      operand := plain_operand h
      column := plain_column h
      choice := plain_choice h
      whenBranches := plain_whenBranches h
      query := plain_query h
      resultColumns := plain_resultColumns h
      resultColumn := plain_resultColumn h
      source := plain_source h
      joined := plain_joined h
      orderTerms := plain_orderTerms h }

theorem plain_enoughFuel : Plain enoughFuel :=
  plain_remaining.bind fun _ => accounts_pure

theorem plain_expr : Plain expr :=
  plain_enoughFuel.bind fun fuel => (plainAt fuel).exprAt 0

end Grammar

end Tablewright.Sql
