import Tablewright.Proofs.Text.Runs
import Tablewright.Sql.Lexer

/-!
# The tokens of a text in pieces

A text that is put together from names, parameters and punctuation marks is cut into just these
tokens (`Spells`), if no name runs into the next one. Each piece has a lemma that puts its token in
front of those of the text behind it (`Spells.word`, `Spells.parameter`, `Spells.symbol`), and
`Spells.lexFrom` gives the lexemes.
-/

namespace Tablewright.Sql

/-- The text is cut into these tokens, its end included. It has no NUL, where a script would
end. -/
inductive Spells : List Char → List Token → Prop
  | finish {cs : List Char} : afterGap .blanks cs = [] → '\x00' ∉ cs → Spells cs [.finish]
  | cons {cs rest : List Char} {t : Token} {ts : List Token} :
    token (afterGap .blanks (cs ++ rest)) = (t, rest) → t ≠ .finish → cs ≠ [] → '\x00' ∉ cs →
      Spells rest ts → Spells (cs ++ rest) (t :: ts)

theorem Spells.not_mem_nul {cs : List Char} {ts : List Token} (h : Spells cs ts) :
    '\x00' ∉ cs := by
  induction h with
  | finish _ hnul => exact hnul
  | cons _ _ _ hnul _ ih => simp [hnul, ih]

theorem Spells.lexFrom {cs : List Char} {ts : List Token} (h : Spells cs ts) {fuel : Nat}
    (hf : cs.length < fuel) : (lexFrom fuel cs).map (·.token) = ts := by
  induction h generalizing fuel with
  | finish hgap _ =>
    obtain ⟨fuel, rfl⟩ : ∃ n, fuel = n + 1 := ⟨fuel - 1, by omega⟩
    simp [Sql.lexFrom, hgap, token]
  | @cons cs rest t ts ht hfinish hne _ _ ih =>
    obtain ⟨fuel, rfl⟩ : ∃ n, fuel = n + 1 := ⟨fuel - 1, by omega⟩
    simp only [Sql.lexFrom, ht, hfinish, if_false, List.map_cons, List.cons.injEq, true_and]
    have := List.length_pos_iff.2 hne
    rw [List.length_append] at hf
    exact ih (by omega)

theorem Spells.lex {s : String} {ts : List Token} (h : Spells s.toList ts) :
    (lex s).map (·.token) = ts := by
  have hnul : s.toList.takeWhile (· != '\x00') = s.toList := by
    have hall : ∀ c ∈ s.toList, (c != '\x00') = true := by
      intro c hc
      rw [bne_iff_ne]
      rintro rfl
      exact h.not_mem_nul hc
    have : (s.toList ++ []).takeWhile (· != '\x00') = s.toList ++ [].takeWhile (· != '\x00') :=
      List.takeWhile_append_of_pos hall
    simpa using this
  rw [Sql.lex, hnul]
  exact h.lexFrom (Nat.lt_succ_self _)

/-! ## Gaps -/

theorem afterGap_of_not_gap {c : Char} (cs : List Char) (hd : c ≠ '-') (hs : c ≠ '/')
    (h : isSpace c = false) : afterGap .blanks (c :: cs) = c :: cs := by
  rw [afterGap]
  · simp [h]
  · rintro rest rfl
    exact absurd rfl hd
  · rintro d rest rfl
    exact absurd rfl hs

theorem Spells.space {cs : List Char} {ts : List Token} (h : Spells cs ts) :
    Spells (' ' :: cs) ts := by
  have hgap : ∀ cs, afterGap .blanks (' ' :: cs) = afterGap .blanks cs := by
    intro cs
    rw [afterGap]
    · simp [isSpace]
    · simp
    · simp
  cases h with
  | finish hend hnul => exact .finish ((hgap _).trans hend) (by simp [hnul])
  | @cons front rest t ts ht hfinish hne hnul h =>
    rw [← List.cons_append]
    refine .cons ?_ hfinish (by simp) (by simp [hnul]) h
    rwa [List.cons_append, hgap]

/-! ## Names -/

/-- A name that needs no quotes. -/
def isPlainName (name : String) : Bool :=
  match name.toList with
  | [] => false
  | c :: cs => isNameStart c && !isSpace c && cs.all isNameChar

theorem all_isNameChar_of_isPlainName {name : String} (h : isPlainName name = true) :
    name.toList.all isNameChar = true := by
  rw [isPlainName] at h
  cases hl : name.toList with
  | nil => simp [hl] at h
  | cons c cs =>
    simp only [hl, Bool.and_eq_true] at h
    simp only [List.all_cons, isNameChar, h.1.1, Bool.true_or, Bool.true_and]
    exact h.2

/-- A text in front of which a name ends. -/
def endsName (cs : List Char) : Bool :=
  cs.head?.all fun c => !isNameChar c && c != '\''

theorem not_isNameChar_of_endsName {rest : List Char} (h : endsName rest = true) :
    rest.head?.all (fun c => !isNameChar c) = true := by
  cases rest <;> simp_all [endsName]

theorem ne_of_isNameStart {c d : Char} (hc : isNameStart c = true) (hd : isNameStart d = false) :
    c ≠ d := by
  rintro rfl
  rw [hc] at hd
  contradiction

theorem not_isNameStart_digit : ∀ n : Fin 10, isNameStart (Char.ofNat (48 + n)) = false := by
  decide

theorem isDigit_eq_false_of_isNameStart {c : Char} (h : isNameStart c = true) :
    c.isDigit = false := by
  rw [Bool.eq_false_iff]
  intro hd
  simp only [Char.isDigit, Bool.and_eq_true, decide_eq_true_eq, ge_iff_le,
    UInt32.le_iff_toNat_le] at hd
  have hlow : 48 ≤ c.toNat := hd.1
  have hhigh : c.toNat ≤ 57 := hd.2
  have hn := not_isNameStart_digit ⟨c.toNat - 48, by omega⟩
  rw [show 48 + (c.toNat - 48) = c.toNat by omega, Char.ofNat_toNat, h] at hn
  contradiction

theorem head?_append_all {p : Char → Bool} {cs rest : List Char} (h : cs.all p = true)
    (hr : rest.head?.all p = true) : (cs ++ rest).head?.all p = true := by
  cases cs <;> simp_all

theorem token_word {c : Char} {cs rest : List Char} (hc : isNameStart c = true)
    (hcs : cs.all isNameChar = true) (hr : endsName rest = true) :
    token (c :: (cs ++ rest)) = (.word (String.ofList (c :: cs)), rest) := by
  have hquote : ((cs ++ rest).head? == some '\'') = false := by
    have hne : (cs ++ rest).head?.all (· != '\'') = true := by
      refine head?_append_all (List.all_eq_true.2 fun d hd => ?_) ?_
      · have := List.all_eq_true.1 hcs d hd
        refine bne_iff_ne.2 ?_
        rintro rfl
        contradiction
      · cases rest <;> simp_all [endsName]
    cases h : (cs ++ rest).head? <;> simp_all
  have hname := not_isNameChar_of_endsName hr
  have hne : ∀ d, isNameStart d = false → (c == d) = false := fun d hd => by
    simpa using ne_of_isNameStart hc hd
  rw [token]
  simp only [hne '\'' rfl, hne '"' rfl, hne '`' rfl, hne '[' rfl, hne '.' rfl, hquote,
    isDigit_eq_false_of_isNameStart hc, hc, Bool.or_self, Bool.and_false, Bool.false_and,
    Bool.false_eq_true, if_false, if_true, Text.takeWhile_append_of_all (List.all_eq_true.1 hcs) hname,
    Text.dropWhile_append_of_all (List.all_eq_true.1 hcs) hname]

theorem nul_not_mem_of_all {cs : List Char} (h : cs.all isNameChar = true) : '\x00' ∉ cs := by
  intro hmem
  have := List.all_eq_true.1 h _ hmem
  contradiction

theorem Spells.word {name : String} {rest : List Char} {ts : List Token}
    (hn : isPlainName name = true) (hr : endsName rest = true) (h : Spells rest ts) :
    Spells (name.toList ++ rest) (.word name :: ts) := by
  rw [isPlainName] at hn
  cases hl : name.toList with
  | nil => simp [hl] at hn
  | cons c cs =>
    simp only [hl, Bool.and_eq_true, Bool.not_eq_true'] at hn
    obtain ⟨⟨hc, hs⟩, hcs⟩ := hn
    have hof : String.ofList (c :: cs) = name := by rw [← hl, String.ofList_toList]
    have hall : (c :: cs).all isNameChar = true := by simp [isNameChar, hc, hcs]
    refine .cons ?_ (by simp) (by simp) (nul_not_mem_of_all hall) h
    rw [List.cons_append, afterGap_of_not_gap _ (ne_of_isNameStart hc rfl)
      (ne_of_isNameStart hc rfl) hs, token_word hc hcs hr, hof]

/-! ## Parameters and punctuation -/

theorem Spells.parameter {name rest : List Char} {ts : List Token} (hne : name ≠ [])
    (hall : name.all isNameChar = true) (hr : endsName rest = true) (h : Spells rest ts) :
    Spells (':' :: (name ++ rest)) (.parameter (String.ofList (':' :: name)) :: ts) := by
  have hname := not_isNameChar_of_endsName hr
  have hnul := nul_not_mem_of_all hall
  rw [← List.cons_append]
  refine .cons ?_ (by simp) (by simp) (by simp [hnul]) h
  rw [List.cons_append, afterGap_of_not_gap _ (by decide) (by decide) (by decide), token]
  have htoken : parameterToken ':' (name ++ rest) =
      (.parameter (String.ofList (':' :: name)), rest) := by
    have hall := List.all_eq_true.1 hall
    simp [parameterToken, Text.takeWhile_append_of_all hall hname,
      Text.dropWhile_append_of_all hall hname, hne]
  simpa [show isNameStart ':' = false from rfl] using htoken

/-- The punctuation marks of a write. -/
def isMark (c : Char) : Bool :=
  c == '(' || c == ')' || c == ','

theorem Spells.mark {c : Char} {rest : List Char} {ts : List Token} (hc : isMark c = true)
    (h : Spells rest ts) : Spells (c :: rest) (.symbol (String.singleton c) :: ts) := by
  simp only [isMark, Bool.or_eq_true, beq_iff_eq] at hc
  rw [← List.singleton_append]
  refine .cons ?_ (by simp) (by simp) ?_ h
  · rcases hc with (rfl | rfl) | rfl
    all_goals
      rw [List.singleton_append, afterGap_of_not_gap _ (by decide) (by decide) (by decide), token]
      simp [symbols, isNameStart]
      rfl
  · rcases hc with (rfl | rfl) | rfl <;> simp

/-! ## Lists -/

/-- The tokens of items that are separated by commas. -/
def separated (items : List (List Token)) : List Token :=
  List.intercalate [.symbol ","] items

theorem separated_cons (a b : List Token) (items : List (List Token)) :
    separated (a :: b :: items) = a ++ .symbol "," :: separated (b :: items) := by
  rw [separated, List.intercalate_cons_cons]
  simp [separated]

/-- Items with commas between them are cut into their tokens, if each of them is wherever a name
may end behind it. -/
theorem Spells.separated {ι : Type} {piece : ι → List Char} {tokensOf : ι → List Token}
    {items : List ι} {rest : List Char} {ts : List Token}
    (hitem : ∀ i ∈ items, ∀ rest ts, endsName rest = true → Spells rest ts →
      Spells (piece i ++ rest) (tokensOf i ++ ts))
    (hr : endsName rest = true) (h : Spells rest ts) :
    Spells (List.intercalate [',', ' '] (items.map piece) ++ rest)
      (separated (items.map tokensOf) ++ ts) := by
  induction items with
  | nil => exact h
  | cons a others ih =>
    have hothers := ih fun i hi => hitem i (by simp [hi])
    cases others with
    | nil => simpa [Sql.separated, List.intercalate_singleton] using hitem a (by simp) rest ts hr h
    | cons b others =>
      rw [List.map_cons, List.map_cons, List.map_cons, List.map_cons, separated_cons,
        List.intercalate_cons_cons, List.append_assoc, List.append_assoc, List.append_assoc]
      exact hitem a (by simp) _ _ rfl (.mark (by decide) (.space hothers))

end Tablewright.Sql
