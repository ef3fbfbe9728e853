import Mathlib.Data.List.TakeWhile
import Tablewright.Proofs.Sql.Spelling

/-!
# The lexemes of a text in pieces

Where the source of a statement matters, its tokens are not enough. `Cuts cs ls rest` says that the
text `cs` is cut into the lexemes `ls`, gaps and texts included, up to `rest`. A text that is put
together from words and marks has the cuts of its pieces (`Cuts.word`, `Cuts.mark`), and `Cuts.lex`
gives the lexemes of a script. Conversely every script is cut into its lexemes (`exists_cuts_lex`),
and a lexeme has the text that its token is spelled by (`Cuts.isTaken`).
-/

namespace Tablewright.Sql

/-- The text `cs` is cut into lexemes up to `rest`. The rest is part of the text, so that no name
runs over a cut. -/
inductive Cuts : List Char → List Lexeme → List Char → Prop
  | nil {rest : List Char} : Cuts rest [] rest
  | cons {l : Lexeme} {cs rest : List Char} {ls : List Lexeme} :
    afterGap .blanks (l.gap ++ (l.text ++ cs)) = l.text ++ cs →
      token (l.text ++ cs) = (l.token, cs) → l.token ≠ .finish → l.text ≠ [] →
      '\x00' ∉ l.gap ++ l.text → Cuts cs ls rest → Cuts (l.gap ++ (l.text ++ cs)) (l :: ls) rest

namespace Cuts

variable {cs ds rest : List Char} {ls ms : List Lexeme}

theorem append (h : Cuts cs ls ds) (h' : Cuts ds ms rest) : Cuts cs (ls ++ ms) rest := by
  induction h with
  | nil => exact h'
  | cons hgap htoken hfinish hne hnul _ ih => exact .cons hgap htoken hfinish hne hnul (ih h')

theorem not_mem_nul (h : Cuts cs ls rest) (hr : '\x00' ∉ rest) : '\x00' ∉ cs := by
  induction h with
  | nil => exact hr
  | cons _ _ _ _ hnul _ ih =>
    rw [← List.append_assoc, List.mem_append, not_or]
    exact ⟨hnul, ih hr⟩

theorem lexFrom (h : Cuts cs ls rest) (hr : afterGap .blanks rest = []) {fuel : Nat}
    (hf : cs.length < fuel) : lexFrom fuel cs = ls ++ [⟨rest, [], .finish⟩] := by
  induction h generalizing fuel with
  | nil =>
    obtain ⟨fuel, rfl⟩ : ∃ n, fuel = n + 1 := ⟨fuel - 1, by omega⟩
    simp [Sql.lexFrom, hr, token]
  | @cons l cs rest ls hgap htoken hfinish hne _ _ ih =>
    obtain ⟨fuel, rfl⟩ : ∃ n, fuel = n + 1 := ⟨fuel - 1, by omega⟩
    have hpos := List.length_pos_iff.2 hne
    simp only [List.length_append] at hf
    have hlength : cs.length < fuel := by omega
    have hrest := ih hr hlength
    have hlexeme : (⟨l.gap, l.text, l.token⟩ : Lexeme) = l := rfl
    simp only [Sql.lexFrom, hgap, htoken, hfinish, if_false, List.length_append,
      Nat.add_sub_cancel, List.take_left, hrest, List.cons_append, hlexeme]

/-- **The lexemes of a script** that is cut up to blanks and comments at its end. -/
theorem lex {s : String} (h : Cuts s.toList ls rest) (hr : afterGap .blanks rest = [])
    (hnul : '\x00' ∉ rest) : lex s = ls ++ [⟨rest, [], .finish⟩] := by
  have hall : ∀ c ∈ s.toList, (c != '\x00') = true := by
    intro c hc
    rw [bne_iff_ne]
    rintro rfl
    exact h.not_mem_nul hnul hc
  rw [Sql.lex, List.takeWhile_eq_self_iff.2 hall]
  exact h.lexFrom hr (Nat.lt_succ_self _)

end Cuts

/-! ## Words and marks -/

theorem afterGap_cons_of_isSpace {c : Char} (h : isSpace c = true) (cs : List Char) :
    afterGap .blanks (c :: cs) = afterGap .blanks cs := by
  have hd : c ≠ '-' := by rintro rfl; contradiction
  have hs : c ≠ '/' := by rintro rfl; contradiction
  rw [afterGap]
  · simp [h]
  · rintro _ rfl
    exact absurd rfl hd
  · rintro _ _ rfl
    exact absurd rfl hs

theorem afterGap_spaces {gap : List Char} (h : gap.all isSpace = true) (cs : List Char) :
    afterGap .blanks (gap ++ cs) = afterGap .blanks cs := by
  induction gap with
  | nil => rfl
  | cons c gap ih =>
    rw [List.all_cons, Bool.and_eq_true] at h
    rw [List.cons_append, afterGap_cons_of_isSpace h.1, ih h.2]

theorem nul_not_mem_of_spaces {gap : List Char} (h : gap.all isSpace = true) : '\x00' ∉ gap := by
  intro hmem
  have := List.all_eq_true.1 h _ hmem
  contradiction

/-- A word behind white space. -/
def wordAt (gap : List Char) (w : String) : Lexeme :=
  ⟨gap, w.toList, .word w⟩

/-- A punctuation mark behind white space. -/
def markAt (gap : List Char) (c : Char) : Lexeme :=
  ⟨gap, [c], .symbol (String.singleton c)⟩

/-- What a plain name consists of. -/
theorem exists_cons_of_isPlainName {name : String} (h : isPlainName name = true) :
    ∃ c cs, name.toList = c :: cs ∧ isNameStart c = true ∧ isSpace c = false ∧
      cs.all isNameChar = true := by
  rw [isPlainName] at h
  cases hl : name.toList with
  | nil => simp [hl] at h
  | cons c cs =>
    simp only [hl, Bool.and_eq_true, Bool.not_eq_true'] at h
    exact ⟨c, cs, rfl, h.1.1, h.1.2, h.2⟩

theorem Cuts.word (gap : List Char) {cs rest : List Char} {name : String} {ls : List Lexeme}
    (hgap : gap.all isSpace = true) (hname : isPlainName name = true) (hends : endsName cs = true)
    (h : Cuts cs ls rest) :
    Cuts (gap ++ (name.toList ++ cs)) (wordAt gap name :: ls) rest := by
  obtain ⟨c, chars, hl, hc, hs, hchars⟩ := exists_cons_of_isPlainName hname
  have hof : String.ofList (c :: chars) = name := by rw [← hl, String.ofList_toList]
  have hnul := nul_not_mem_of_all (all_isNameChar_of_isPlainName hname)
  refine Cuts.cons (l := wordAt gap name) ?_ ?_ (by simp [wordAt]) (by simp [wordAt, hl])
    (by simp [wordAt, nul_not_mem_of_spaces hgap, hnul]) h
  · rw [wordAt, afterGap_spaces hgap, hl, List.cons_append,
      afterGap_of_not_gap _ (ne_of_isNameStart hc rfl) (ne_of_isNameStart hc rfl) hs]
  · rw [wordAt, hl, List.cons_append, token_word hc hchars hends, hof]

/-- The punctuation marks of a definition. -/
def definitionMarks : List Char :=
  ['(', ')', ',', ';']

theorem token_mark {c : Char} (hc : c ∈ definitionMarks) (cs : List Char) :
    token (c :: cs) = (.symbol (String.singleton c), cs) := by
  simp only [definitionMarks, List.mem_cons, List.not_mem_nil, or_false] at hc
  rcases hc with rfl | rfl | rfl | rfl
  all_goals
    rw [token]
    simp [symbols, isNameStart]
    rfl

theorem not_gap_of_mark : ∀ c ∈ definitionMarks,
    c ≠ '-' ∧ c ≠ '/' ∧ isSpace c = false ∧ c ≠ '\x00' := by
  intro c hc
  simp only [definitionMarks, List.mem_cons, List.not_mem_nil, or_false] at hc
  rcases hc with rfl | rfl | rfl | rfl <;> decide

theorem Cuts.mark (gap : List Char) {cs rest : List Char} {c : Char} {ls : List Lexeme}
    (hgap : gap.all isSpace = true) (hc : c ∈ definitionMarks) (h : Cuts cs ls rest) :
    Cuts (gap ++ c :: cs) (markAt gap c :: ls) rest := by
  obtain ⟨hd, hs, hspace, hnul⟩ := not_gap_of_mark c hc
  refine Cuts.cons (l := markAt gap c) ?_ (token_mark hc cs) (by simp [markAt]) (by simp [markAt])
    (by simp [markAt, nul_not_mem_of_spaces hgap, hnul.symm]) h
  exact (afterGap_spaces hgap _).trans (afterGap_of_not_gap _ hd hs hspace)

/-! ## What a token takes -/

theorem quotedText_suffix {quote : Char} {cs text rest : List Char}
    (h : quotedText quote cs = some (text, rest)) : rest <:+ cs := by
  fun_induction quotedText quote cs generalizing text with
  | case1 => cases h
  | case2 => cases h; exact List.nil_suffix
  | case3 => cases h
  | case4 c d tail hc hd ih =>
    obtain ⟨r, hr, heq⟩ := Option.map_eq_some_iff.1 h
    cases heq
    exact (ih hr).trans (List.suffix_append [c, d] tail)
  | case5 c d tail => cases h; exact List.suffix_cons c (d :: tail)
  | case6 c d tail hc ih =>
    obtain ⟨r, hr, heq⟩ := Option.map_eq_some_iff.1 h
    cases heq
    exact (ih hr).trans (List.suffix_cons c (d :: tail))

theorem bracketedText_suffix {cs text rest : List Char}
    (h : bracketedText cs = some (text, rest)) : rest <:+ cs := by
  rw [bracketedText] at h
  have hdrop := List.dropWhile_suffix (l := cs) (· != ']')
  split at h
  · cases h
  · rename_i c tail heq
    cases h
    rw [heq] at hdrop
    exact (List.suffix_cons c rest).trans hdrop

theorem afterExponent_suffix (cs : List Char) : afterExponent cs <:+ cs := by
  fun_cases afterExponent cs with
  | case1 e rest digits h =>
    have hdigits : digits <:+ rest := by
      dsimp only [digits]
      split
      · exact List.suffix_cons ..
      · exact List.suffix_cons ..
      · exact List.suffix_rfl
    exact (List.dropWhile_suffix _).trans (hdigits.trans (List.suffix_cons ..))
  | case2 e rest digits h => exact List.suffix_rfl
  | case3 => exact List.suffix_rfl

/-- What is known of a token, the text that it takes and what is left: a word or symbol is written
as it is, and a word goes on as long as it can. -/
def IsTaken (text : List Char) (t : Token) (rest : List Char) : Prop :=
  match t with
  | .word w => text = w.toList ∧ rest.head?.all (fun c => !isNameChar c) = true
  | .symbol s => text = s.toList
  | .finish => False
  | _ => True

/-- What follows the places of a decimal. -/
theorem afterPlaces_suffix (cs : List Char) :
    (match cs with
      | '.' :: rest => rest.dropWhile Char.isDigit
      | rest => rest) <:+ cs := by
  split
  · exact (List.dropWhile_suffix _).trans (List.suffix_cons ..)
  · exact List.suffix_rfl

theorem numberToken_suffix {c : Char} {cs rest : List Char} {t : Token}
    (hc : (c.isDigit || c == '.') = true) (h : numberToken (c :: cs) = (t, rest)) :
    rest <:+ cs ∧ ∀ text, IsTaken text t rest := by
  have hdigit : ∀ p : Char → Bool, (cs.dropWhile p) <:+ cs := fun p => List.dropWhile_suffix p
  unfold numberToken at h
  extract_lets hexadecimal whole fraction decimal at h
  have hdecimal : decimal <:+ cs := by
    refine (afterExponent_suffix _).trans ?_
    by_cases hd : c.isDigit = true
    · have hwhole : whole <:+ cs := by
        dsimp only [whole]
        rw [List.dropWhile_cons, if_pos hd]
        exact hdigit _
      exact (afterPlaces_suffix whole).trans hwhole
    · obtain rfl : c = '.' := by simpa [hd] using hc
      exact hdigit _
  have hrest : ∀ {behind : List Char} {isInteger : Bool}, behind <:+ cs →
      (if Option.any isNameChar behind.head? = true then
        (Token.illegal, List.dropWhile isNameChar behind)
      else (if isInteger = true then
          Token.integer (String.ofList (List.take ((c :: cs).length - behind.length) (c :: cs)))
        else Token.decimal (String.ofList (List.take ((c :: cs).length - behind.length) (c :: cs))),
        behind)) = (t, rest) → rest <:+ cs ∧ ∀ text, IsTaken text t rest := by
    intro behind isInteger hbehind h
    split at h
    · cases h
      exact ⟨(List.dropWhile_suffix _).trans hbehind, fun _ => trivial⟩
    · cases h
      refine ⟨hbehind, fun _ => ?_⟩
      split <;> trivial
  split at h
  rename_i behind isInteger heq
  refine hrest ?_ h
  split at heq
  · cases heq
    exact (List.dropWhile_suffix _).trans ((List.drop_suffix 1 cs).trans List.suffix_rfl)
  · cases heq
    exact hdecimal

theorem parameterToken_suffix {c : Char} {cs rest : List Char} {t : Token}
    (h : parameterToken c cs = (t, rest)) : rest <:+ cs ∧ ∀ text, IsTaken text t rest := by
  unfold parameterToken at h
  generalize (if c == '?' then Char.isDigit else isNameChar) = belongs at h
  dsimp only at h
  split at h
  · cases h
    exact ⟨List.suffix_rfl, fun _ => trivial⟩
  · cases h
    exact ⟨List.dropWhile_suffix _, fun _ => trivial⟩

theorem ne_nil_of_mem_symbols : ∀ s ∈ symbols, s.toList ≠ [] := by
  decide

/-- **A token takes a text that it is spelled by.** -/
theorem exists_of_token {c : Char} {cs rest : List Char} {t : Token}
    (h : token (c :: cs) = (t, rest)) :
    ∃ text, cs = text ++ rest ∧ IsTaken (c :: text) t rest := by
  have other : rest <:+ cs ∧ (∀ text, IsTaken text t rest) →
      ∃ text, cs = text ++ rest ∧ IsTaken (c :: text) t rest := by
    rintro ⟨⟨text, htext⟩, htaken⟩
    exact ⟨text, htext.symm, htaken _⟩
  rw [token] at h
  repeat' split at h
  · rename_i hquoted
    cases h
    exact other ⟨quotedText_suffix hquoted, fun _ => trivial⟩
  · cases h
    exact other ⟨List.nil_suffix, fun _ => trivial⟩
  · rename_i hquoted
    cases h
    exact other ⟨quotedText_suffix hquoted, fun _ => trivial⟩
  · cases h
    exact other ⟨List.nil_suffix, fun _ => trivial⟩
  · rename_i hbrackets
    cases h
    exact other ⟨bracketedText_suffix hbrackets, fun _ => trivial⟩
  · cases h
    exact other ⟨List.nil_suffix, fun _ => trivial⟩
  · rename_i digits _ hquoted
    cases h
    refine other ⟨(quotedText_suffix hquoted).trans (List.drop_suffix 1 cs), fun _ => ?_⟩
    cases hexBytes? digits <;> trivial
  · cases h
    exact other ⟨List.nil_suffix, fun _ => trivial⟩
  · rename_i hnumber
    refine other (numberToken_suffix ?_ h)
    rw [Bool.or_eq_true] at hnumber ⊢
    exact hnumber.imp_right fun hpoint => (Bool.and_eq_true_iff.1 hpoint).1
  · cases h
    refine ⟨cs.takeWhile isNameChar, List.takeWhile_append_dropWhile.symm, by simp, ?_⟩
    have hends := List.head?_dropWhile_not isNameChar cs
    cases hhead : (cs.dropWhile isNameChar).head? with
    | none => rfl
    | some d => simpa [hhead] using hends
  · exact other (parameterToken_suffix h)
  · rename_i s hfind
    cases h
    have hmem := List.mem_of_find?_eq_some hfind
    have hprefix : s.toList.isPrefixOf (c :: cs) = true := by simpa using List.find?_some hfind
    obtain ⟨rest, hrest⟩ := List.isPrefixOf_iff_prefix.1 hprefix
    obtain ⟨d, text, hs⟩ := List.exists_cons_of_ne_nil (ne_nil_of_mem_symbols s hmem)
    rw [hs, List.cons_append, List.cons.injEq] at hrest
    obtain ⟨rfl, rfl⟩ := hrest
    have hlength : s.length = (d :: text).length := by rw [← hs, String.length_toList]
    refine ⟨text, ?_, hs.symm⟩
    rw [hlength, List.length_cons, List.drop_succ_cons, List.drop_left]
  · cases h
    exact other ⟨List.suffix_rfl, fun _ => trivial⟩

/-! ## Whole texts -/

theorem afterGap_suffix (mode : GapMode) (cs : List Char) : afterGap mode cs <:+ cs := by
  fun_induction afterGap mode cs with
  | case1 => exact List.suffix_rfl
  | case2 rest ih => exact ih.trans (List.suffix_append ['-', '-'] rest)
  | case3 c rest ih => exact ih.trans (List.suffix_append ['/', '*'] (c :: rest))
  | case4 c rest _ _ hc ih => exact ih.trans (List.suffix_cons c rest)
  | case5 c rest => exact List.suffix_rfl
  | case6 c rest ih => exact ih.trans (List.suffix_cons c rest)
  | case7 rest ih => exact ih.trans (List.suffix_append ['*', '/'] rest)
  | case8 c rest _ ih => exact ih.trans (List.suffix_cons c rest)

/-- **Every text is cut into lexemes**, up to blanks and comments. -/
theorem exists_cuts (cs : List Char) (hnul : '\x00' ∉ cs) :
    ∃ ls rest, Cuts cs ls rest ∧ afterGap .blanks rest = [] ∧ '\x00' ∉ rest := by
  induction hn : cs.length using Nat.strongRecOn generalizing cs with
  | ind n ih =>
    obtain ⟨gap, hgap⟩ := afterGap_suffix .blanks cs
    cases hstart : afterGap .blanks cs with
    | nil => exact ⟨[], cs, .nil, hstart, hnul⟩
    | cons c start =>
      rw [hstart] at hgap
      generalize htoken : token (c :: start) = result at *
      obtain ⟨t, behind⟩ := result
      obtain ⟨text, rfl, htaken⟩ := exists_of_token htoken
      subst hgap
      have hsplit : gap ++ c :: (text ++ behind) = gap ++ c :: text ++ behind := by simp
      rw [hsplit, List.mem_append, not_or] at hnul
      obtain ⟨ls, rest, hcuts, hend, hrest⟩ :=
        ih behind.length (by rw [← hn]; simp; omega) behind hnul.2 rfl
      have hlexeme := Cuts.cons (l := ⟨gap, c :: text, t⟩) hstart htoken (by rintro rfl; exact htaken)
        (List.cons_ne_nil c text) hnul.1 hcuts
      exact ⟨_, rest, hlexeme, hend, hrest⟩

/-- **The lexemes of a script** are cut from it, up to its first NUL. -/
theorem exists_cuts_lex (script : String) :
    ∃ ls rest, Cuts (script.toList.takeWhile (· != '\x00')) ls rest ∧
      lex script = ls ++ [⟨rest, [], .finish⟩] := by
  have hnul : '\x00' ∉ script.toList.takeWhile (· != '\x00') := fun h => by
    simpa using List.mem_takeWhile_imp h
  obtain ⟨ls, rest, hcuts, hend, -⟩ := exists_cuts _ hnul
  exact ⟨ls, rest, hcuts, hcuts.lexFrom hend (Nat.lt_succ_self _)⟩

/-- The text of consecutive lexemes, gaps included. -/
def textOf (ls : List Lexeme) : List Char :=
  ls.flatMap fun l => l.gap ++ l.text

namespace Cuts

variable {cs rest : List Char} {ls ms : List Lexeme}

theorem eq_textOf (h : Cuts cs ls rest) : cs = textOf ls ++ rest := by
  induction h with
  | nil => rfl
  | cons _ _ _ _ _ _ ih => rw [ih]; simp [textOf]

theorem split (h : Cuts cs (ls ++ ms) rest) : ∃ ds, Cuts cs ls ds ∧ Cuts ds ms rest := by
  induction ls generalizing cs with
  | nil => exact ⟨cs, .nil, h⟩
  | cons l ls ih =>
    cases h with
    | cons hgap htoken hfinish hne hnul h =>
      obtain ⟨ds, hls, hms⟩ := ih h
      exact ⟨ds, .cons hgap htoken hfinish hne hnul hls, hms⟩

/-- A lexeme in its place: the text it takes, and what is behind it. -/
theorem isTaken {l : Lexeme} (h : Cuts cs (ls ++ l :: ms) rest) :
    IsTaken l.text l.token (textOf ms ++ rest) := by
  obtain ⟨ds, -, h⟩ := h.split
  cases h with
  | @cons _ behind _ _ _ htoken _ hne _ h =>
    rw [h.eq_textOf] at htoken
    obtain ⟨c, text, htext⟩ := List.exists_cons_of_ne_nil hne
    rw [htext, List.cons_append] at htoken
    obtain ⟨text', heq, htaken⟩ := exists_of_token htoken
    rw [List.append_left_inj] at heq
    rwa [htext, heq]

end Cuts

theorem textOf_append (ls ms : List Lexeme) : textOf (ls ++ ms) = textOf ls ++ textOf ms :=
  List.flatMap_append

theorem textOf_cons (l : Lexeme) (ls : List Lexeme) :
    textOf (l :: ls) = l.gap ++ (l.text ++ textOf ls) := by
  rw [textOf, List.flatMap_cons, List.append_assoc]
  rfl

/-- The cuts of a script around a lexeme. -/
theorem exists_cuts_of_lex {script : String} {before behind : List Lexeme} {l : Lexeme}
    (h : lex script = before ++ l :: behind) (hl : l.token ≠ .finish) :
    ∃ cs ms rest, Cuts cs (before ++ l :: ms) rest ∧ textOf behind = textOf ms ++ rest := by
  obtain ⟨ls, rest, hcuts, hlex⟩ := exists_cuts_lex script
  rw [hlex] at h
  rcases List.eq_nil_or_concat behind with rfl | ⟨others, last, rfl⟩
  · obtain ⟨-, hlast⟩ := List.append_inj' h rfl
    cases hlast
    exact absurd rfl hl
  · rw [List.concat_eq_append, ← List.cons_append, ← List.append_assoc] at h
    obtain ⟨rfl, hlast⟩ := List.append_inj' h rfl
    cases hlast
    refine ⟨_, others, rest, hcuts, ?_⟩
    rw [List.concat_eq_append, textOf_append, textOf_cons]
    simp [textOf]

/-- A lexeme of a script takes its text in front of those behind it. -/
theorem isTaken_of_lex {script : String} {before behind : List Lexeme} {l : Lexeme}
    (h : lex script = before ++ l :: behind) (hl : l.token ≠ .finish) :
    IsTaken l.text l.token (textOf behind) := by
  obtain ⟨cs, ms, rest, hcuts, htext⟩ := exists_cuts_of_lex h hl
  rw [htext]
  exact hcuts.isTaken

/-- The gap in front of a lexeme of a script is all that is passed over. -/
theorem afterGap_of_lex {script : String} {before behind : List Lexeme} {l : Lexeme}
    (h : lex script = before ++ l :: behind) (hl : l.token ≠ .finish) :
    afterGap .blanks (l.gap ++ (l.text ++ textOf behind)) = l.text ++ textOf behind := by
  obtain ⟨cs, ms, rest, hcuts, htext⟩ := exists_cuts_of_lex h hl
  obtain ⟨ds, -, hcuts⟩ := hcuts.split
  cases hcuts with
  | cons hgap _ _ _ _ hcuts =>
    rw [htext, ← hcuts.eq_textOf]
    exact hgap

end Tablewright.Sql
