import Tablewright.Proofs.Extraction.IncrementFlags
import Tablewright.Proofs.Outline.Phrases
import Tablewright.Proofs.Outline.Runs

/-!
# Lines of columns

Whether a column definition says NOT NULL, PRIMARY KEY or AUTOINCREMENT can be told from its lexemes:
the keywords stand one behind the other outside of parentheses (`statesFrom`). A scan looks for the
words in the text. It finds what the lexemes say if the words begin nowhere else, in no comment, string,
name or parentheses, and have only white space between them (`contains_eq_statesFrom`). The name and the
type that it reads are the first two lexemes, if those are bare words (`parts_of_lexemes`).
-/

namespace Tablewright

namespace Sql

open Outline

/-! ## Keywords outside of parentheses -/

/-- Whether keywords stand one behind the other outside of parentheses. -/
def statesFrom (ks : List String) : Nat → List Lexeme → Bool
  | _, [] => false
  | depth, l :: rest =>
    (depth = 0 && Grammar.beginWith ks (l :: rest)) || statesFrom ks (depthBehind depth l) rest

/-- Whether a gap is white space and nothing else. -/
def isSpacing (gap : List Char) : Bool :=
  !gap.isEmpty && gap.all Text.isBlank

/-- Whether a phrase begins in the text of lexemes only where its keywords stand outside of
parentheses, and has only white space between them there. -/
def isOpenFrom (ks : List String) : Nat → Option Char → List Lexeme → Bool
  | _, _, [] => true
  | depth, before, l :: rest =>
    let front := l.gap.getLast?.or before
    !beginsIn ks before l.gap (l.text ++ textOf rest) &&
      (if depth = 0 && Grammar.beginWith ks (l :: rest) then
        wordBegins front && (rest.take (ks.length - 1)).all (isSpacing ·.gap)
      else !beginsIn ks front l.text (textOf rest)) &&
      isOpenFrom ks (depthBehind depth l) (l.text.getLast?.or front) rest

variable {ks : List String} {k : String} {script : String} {before behind ls : List Lexeme} {l : Lexeme}

theorem blanks?_of_isSpacing {gap cs : List Char} (hgap : isSpacing gap = true) (hne : cs ≠ [])
    (hplain : ∀ c ∈ cs, isPlainNameChar c = true) (rest : List Char) :
    blanks? (gap ++ (cs ++ rest)) = some (cs ++ rest) := by
  rw [isSpacing, Bool.and_eq_true, Bool.not_eq_true', List.isEmpty_eq_false_iff] at hgap
  obtain ⟨c, gap, rfl⟩ := List.exists_cons_of_ne_nil hgap.1
  rw [List.all_cons, Bool.and_eq_true] at hgap
  rw [List.cons_append, blanks?, if_pos hgap.2.1, Text.dropBlank,
    List.dropWhile_append_of_pos (List.all_eq_true.1 hgap.2.2)]
  exact congrArg some
    (Text.dropBlank_append (fun c hc => (facts_of_isPlainNameChar (hplain c hc)).2.2.2) hne _)

/-- Keywords with white space between them are found where they stand. -/
theorem keywords?_of_beginWith (hks : ∀ k' ∈ k :: ks, IsPlainKeyword k')
    (h : lex script = before ++ l :: behind) (hbegin : Grammar.beginWith (k :: ks) (l :: behind) = true)
    (hspacing : (behind.take ks.length).all (isSpacing ·.gap) = true) :
    ∃ rest, keywords? (k :: ks) (l.text ++ textOf behind) = some rest ∧ wordEnds rest = true := by
  induction ks generalizing k before l behind with
  | nil =>
    rw [Grammar.beginWith, Bool.and_eq_true] at hbegin
    obtain ⟨htext, -, -, hends⟩ := Lexeme.text_of_isKeyword (hks k List.mem_cons_self) h hbegin.1
    refine ⟨textOf behind, ?_, hends⟩
    rw [keywords?, ← htext, keyword?_append_self]
  | cons k' ks ih =>
    rw [Grammar.beginWith, Bool.and_eq_true] at hbegin
    obtain ⟨hbegin, hbehind⟩ := hbegin
    obtain ⟨htext, -⟩ := Lexeme.text_of_isKeyword (hks k List.mem_cons_self) h hbegin
    cases behind with
    | nil => cases hbehind
    | cons m behind =>
      rw [List.length_cons, List.take_succ_cons, List.all_cons, Bool.and_eq_true] at hspacing
      have hlex : lex script = (before ++ [l]) ++ m :: behind := by rw [h]; simp
      obtain ⟨-, hplain, hne, -⟩ := Lexeme.text_of_isKeyword (hks k' (by simp)) hlex
        (Bool.and_eq_true_iff.1 hbehind).1
      obtain ⟨rest, hrest, hends⟩ :=
        ih (fun k hk => hks k (List.mem_cons_of_mem _ hk)) hlex hbehind hspacing.2
      refine ⟨rest, ?_, hends⟩
      have hkeyword : keyword? k.toList (l.text ++ textOf (m :: behind)) =
          some (textOf (m :: behind)) := by
        rw [← htext, keyword?_append_self]
      have hblanks : blanks? (textOf (m :: behind)) = some (m.text ++ textOf behind) := by
        rw [textOf_cons]
        exact blanks?_of_isSpacing hspacing.1 hne hplain _
      simp only [keywords?, Option.bind_eq_bind, hkeyword, Option.bind_some, hblanks, hrest]

/-- Keywords with white space between them begin a text. -/
theorem beginsWith_of_beginWith (hne : ks ≠ []) (hks : ∀ k ∈ ks, IsPlainKeyword k)
    (h : lex script = before ++ l :: behind) (hbegin : Grammar.beginWith ks (l :: behind) = true)
    (hspacing : (behind.take (ks.length - 1)).all (isSpacing ·.gap) = true) :
    l.text ≠ [] ∧ beginsWith ks (l.text ++ textOf behind) = true := by
  obtain ⟨k, ks, rfl⟩ := List.exists_cons_of_ne_nil hne
  obtain ⟨-, -, hne, -⟩ := Lexeme.text_of_isKeyword (hks k List.mem_cons_self) h
    (Bool.and_eq_true_iff.1 hbegin).1
  exact ⟨hne, beginsWith_iff.2 (keywords?_of_beginWith hks h hbegin hspacing)⟩

/-- **The text of lexemes contains an open phrase exactly if the lexemes state it.** -/
theorem contains_eq_statesFrom (hne : ks ≠ []) (hks : ∀ k ∈ ks, IsPlainKeyword k) {depth : Nat}
    {c : Option Char} (h : lex script = before ++ ls) (hopen : isOpenFrom ks depth c ls = true) :
    contains ks c (textOf ls) = statesFrom ks depth ls := by
  induction ls generalizing before depth c with
  | nil => rfl
  | cons l rest ih =>
    rw [isOpenFrom] at hopen
    simp only [Bool.and_eq_true, Bool.not_eq_true'] at hopen
    obtain ⟨⟨hgap, hplace⟩, hrest⟩ := hopen
    have hlex : lex script = (before ++ [l]) ++ rest := by rw [h]; simp
    rw [textOf_cons, contains_append_eq, hgap, Bool.false_or, contains_append_eq, ih hlex hrest,
      statesFrom]
    congr 1
    split at hplace
    · rename_i hstated
      rw [Bool.and_eq_true] at hplace
      obtain ⟨hne, hbegins⟩ := beginsWith_of_beginWith hne hks h hstated.2 hplace.2
      obtain ⟨a, part, heq⟩ := List.exists_cons_of_ne_nil hne
      rw [heq, List.cons_append] at hbegins
      rw [heq, beginsIn, hplace.1, hbegins, hstated.1, hstated.2]
      rfl
    · rename_i hstated
      rw [Bool.not_eq_true'] at hplace
      rw [hplace, eq_comm, Bool.eq_false_iff, Ne, Bool.and_eq_true]
      exact hstated

end Sql

/-! ## Types -/

namespace Affinity

open Text

theorem mem_trimBlank {s : String} {c : Char} (hc : c ∈ s.toList) (hblank : isBlank c = false) :
    c ∈ (trimBlank s).toList := by
  have hdrop : ∀ {cs : List Char}, c ∈ cs → c ∈ dropBlank cs := by
    intro cs hcs
    rw [← List.takeWhile_append_dropWhile (p := isBlank) (l := cs), List.mem_append] at hcs
    refine hcs.resolve_left fun htake => ?_
    rw [List.mem_takeWhile_imp htake] at hblank
    cases hblank
  rw [trimBlank, String.toList_ofList, List.mem_reverse]
  exact hdrop (List.mem_reverse.2 (hdrop hc))

/-- No type that is known has a size. -/
theorem not_mem_of_ofText {s : String} {affinity : Affinity} (h : ofText s = .ok affinity) :
    '(' ∉ s.toList := by
  intro hmem
  have htrim := mem_trimBlank hmem (by decide)
  rw [ofText] at h
  split at h
  · rename_i found hfind
    have hsame : sameName found.keyword (trimBlank s) = true := by
      simpa using List.find?_some hfind
    have hlower : '(' ∈ (lowerAscii found.keyword).toList := by
      rw [sameName_iff.1 hsame, lowerAscii, String.toList_map]
      exact List.mem_map.2 ⟨'(', htrim, by decide⟩
    cases found <;> exact absurd hlower (by decide +kernel)
  · cases h

end Affinity

/-! ## White space in front of a lexeme -/

namespace Sql

open Outline Text

theorem isNameChar_ascii : ∀ n : Fin 128, isPlainNameChar (Char.ofNat n) = true →
    isNameChar (Char.ofNat n) = true ∧ isSpace (Char.ofNat n) = false := by
  decide

/-- A letter, digit or underscore of ASCII belongs to names of SQL. -/
theorem isNameChar_of_isPlainNameChar {c : Char} (h : isPlainNameChar c = true) :
    isNameChar c = true ∧ isSpace c = false := by
  have hascii := isNameChar_ascii ⟨c.toNat, toNat_lt_of_isPlainNameChar h⟩
  rw [Char.ofNat_toNat] at hascii
  exact hascii h

/-- Behind the white space in a gap stands nothing of a name. -/
theorem not_isPlainNameChar_of_gap {gap cs : List Char} (h : afterGap .blanks (gap ++ cs) = cs) :
    ∀ c ∈ (dropBlank gap).head?, isPlainNameChar c = false := by
  induction gap with
  | nil => nofun
  | cons d gap ih =>
    -- what is passed over is at least one character
    have hspace : d ≠ '-' → d ≠ '/' → isSpace d = true := by
      intro hminus hslash
      by_contra hspace
      rw [List.cons_append, afterGap_of_not_gap _ hminus hslash (by simpa using hspace)] at h
      have := congrArg List.length h
      simp at this
      omega
    rw [dropBlank, List.dropWhile_cons]
    split
    · rename_i hblank
      have hd : d ≠ '-' ∧ d ≠ '/' := by
        constructor <;> rintro rfl <;> exact absurd hblank (by decide)
      rw [List.cons_append, afterGap_cons_of_isSpace (hspace hd.1 hd.2)] at h
      exact ih h
    · rintro c ⟨⟩
      rw [Bool.eq_false_iff]
      intro hplain
      have hd : d ≠ '-' ∧ d ≠ '/' := by
        constructor <;> rintro rfl <;> exact absurd hplain (by decide)
      have hsql := (isNameChar_of_isPlainNameChar hplain).2
      rw [hspace hd.1 hd.2] at hsql
      cases hsql

/-- Where white space is dropped from a gap and a name, the name is left, or something that is no name
at all. -/
theorem dropBlank_gap {gap cs : List Char} (h : afterGap .blanks (gap ++ cs) = cs)
    (hcs : ∀ c ∈ cs.head?, isBlank c = false) :
    (gap.all isBlank = true ∧ dropBlank (gap ++ cs) = cs) ∨
      ∃ c rest, dropBlank (gap ++ cs) = c :: rest ∧ isPlainNameChar c = false := by
  cases hdrop : dropBlank gap with
  | nil =>
    have hall : ∀ c ∈ gap, isBlank c = true := by simpa [dropBlank] using hdrop
    refine .inl ⟨List.all_eq_true.2 hall, ?_⟩
    rw [dropBlank, List.dropWhile_append_of_pos hall]
    cases cs with
    | nil => rfl
    | cons c cs => rw [List.dropWhile_cons_of_neg (by simp [hcs c rfl])]
  | cons c rest =>
    refine .inr ⟨c, rest ++ cs, ?_, not_isPlainNameChar_of_gap h c (by rw [hdrop]; rfl)⟩
    rw [dropBlank] at hdrop ⊢
    rw [List.dropWhile_append, hdrop]
    rfl

end Sql

/-! ## The parts of a line -/

namespace Outline

open Text

variable {cs rest : List Char} {parts : ColumnLine} {line : String}

theorem columnLine?_of_classify (h : Line.classify line = .column parts) :
    columnLine? (dropBlank line.toList) = some parts := by
  rw [Line.classify] at h
  split at h
  · cases h
  · split_ifs at h
    split at h
    · cases h
      assumption
    · cases h

/-- What a column line consists of. -/
theorem exists_of_columnLine? (h : columnLine? cs = some parts) :
    ∃ typed rest, (cs.takeWhile isPlainNameChar).head?.all Char.isDigit = false ∧
      blanks? (cs.dropWhile isPlainNameChar) = some typed ∧ typed.head?.any Char.isAlpha = true ∧
      rest = typed.dropWhile Char.isAlpha ∧ wordEnds rest = true ∧
      parts = ⟨String.ofList (cs.takeWhile isPlainNameChar), before typed ((size? rest).getD rest),
        String.ofList ((size? rest).getD rest)⟩ := by
  rw [columnLine?] at h
  split at h
  · cases h
  · rename_i hname
    obtain ⟨typed, htyped, h⟩ := Option.bind_eq_some_iff.1 h
    dsimp only at h
    split at h
    · cases h
    · rename_i htype
      rw [Bool.or_eq_true, not_or, Bool.not_eq_true', Bool.not_eq_false, Bool.not_eq_true',
        Bool.not_eq_false] at htype
      cases h
      exact ⟨typed, _, by simpa using hname, htyped, htype.1, rfl, htype.2, rfl⟩

/-- A size is a text in parentheses. -/
theorem exists_append_of_size? (h : size? cs = some rest) :
    ∃ size, cs = size ++ rest ∧ '(' ∈ size := by
  have hcut := List.takeWhile_append_dropWhile (p := isBlank) (l := cs)
  rw [size?, dropBlank] at h
  split at h
  · rename_i inner hopen
    split at h
    · rename_i behind hclose
      cases h
      have hinner := List.takeWhile_append_dropWhile (p := (· != ')')) (l := inner)
      rw [hclose] at hinner
      rw [hopen, ← hinner] at hcut
      exact ⟨cs.takeWhile isBlank ++ '(' :: (inner.takeWhile (· != ')') ++ [')']),
        hcut.symm.trans (by simp), by simp⟩
    · cases h
  · cases h

theorem dropBlank_of_blanks? (h : blanks? cs = some rest) : rest = dropBlank cs := by
  cases cs with
  | nil => cases h
  | cons c cs =>
    rw [blanks?] at h
    split at h
    · rename_i hblank
      cases h
      rw [dropBlank, dropBlank, List.dropWhile_cons, if_pos hblank]
    · cases h

end Outline

namespace Sql

open Outline Text

/-- A lexeme is a bare name of ASCII letters, digits and underscores. -/
def Lexeme.isBare (l : Lexeme) : Bool :=
  match l.token with
  | .word w => !w.toList.isEmpty && w.toList.all isPlainNameChar
  | _ => false

variable {line : String} {before behind cs : List Lexeme} {l n t : Lexeme} {parts : ColumnLine}

/-- A bare name in a script. -/
theorem Lexeme.text_of_isBare (hl : l.isBare = true) (h : lex line = before ++ l :: behind) :
    l.token = .word (String.ofList l.text) ∧ l.text ≠ [] ∧ (∀ c ∈ l.text, isPlainNameChar c = true) ∧
      (textOf behind).head?.all (fun c => !isNameChar c) = true ∧
      afterGap .blanks (l.gap ++ (l.text ++ textOf behind)) = l.text ++ textOf behind := by
  obtain ⟨gap, text, token⟩ := l
  cases token with
  | word w =>
    obtain ⟨rfl, hends⟩ := isTaken_of_lex h nofun
    have hgap := afterGap_of_lex h nofun
    rw [Lexeme.isBare, Bool.and_eq_true, Bool.not_eq_true', List.isEmpty_eq_false_iff,
      List.all_eq_true] at hl
    exact ⟨by simp, hl.1, hl.2, hends, hgap⟩
  | _ => cases hl

/-- No plain name goes on where a name of SQL ends. -/
theorem not_isPlainNameChar_of_endsName {cs : List Char}
    (h : cs.head?.all (fun c => !isNameChar c) = true) :
    cs.head?.all (fun c => !isPlainNameChar c) = true := by
  cases cs with
  | nil => rfl
  | cons c cs =>
    rw [List.head?_cons, Option.all_some, Bool.not_eq_true'] at h ⊢
    rw [Bool.eq_false_iff]
    intro hplain
    rw [(isNameChar_of_isPlainNameChar hplain).1] at h
    cases h

theorem isPlainNameChar_of_isAlpha {c : Char} (h : c.isAlpha = true) : isPlainNameChar c = true := by
  rw [isPlainNameChar, Char.isAlphanum, h]
  rfl

/-- Letters in front of which no word goes on are a whole type. -/
theorem dropWhile_isAlpha {type rest : List Char} (htype : ∀ c ∈ type, isPlainNameChar c = true)
    (hrest : rest.head?.all (fun c => !isPlainNameChar c) = true)
    (hends : wordEnds ((type ++ rest).dropWhile Char.isAlpha) = true) :
    (type ++ rest).dropWhile Char.isAlpha = rest := by
  cases hletters : type.dropWhile Char.isAlpha with
  | nil =>
    rw [List.dropWhile_append, hletters, List.isEmpty_nil, if_pos rfl]
    cases rest with
    | nil => rfl
    | cons c rest =>
      rw [List.head?_cons, Option.all_some, Bool.not_eq_true'] at hrest
      refine List.dropWhile_cons_of_neg fun halpha => ?_
      rw [isPlainNameChar_of_isAlpha halpha] at hrest
      cases hrest
  | cons c letters =>
    have hmem : c ∈ type := (List.dropWhile_suffix Char.isAlpha).mem (by simp [hletters])
    rw [List.dropWhile_append, hletters, List.isEmpty_cons, if_neg Bool.false_ne_true,
      List.cons_append, wordEnds, List.head?_cons, Option.any_some,
      (facts_of_isPlainNameChar (htype c hmem)).2.2.1] at hends
    cases hends

/-- A line without NUL consists of its lexemes. -/
theorem toList_eq_textOf (hnul : '\x00' ∉ line.toList) : line.toList = textOf (lex line) := by
  have hall : ∀ c ∈ line.toList, (c != '\x00') = true := fun c hc => by
    rw [bne_iff_ne]
    rintro rfl
    exact hnul hc
  rw [textOf_lex, List.takeWhile_eq_self_iff.2 hall]

/-- **The parts of a column line are its lexemes**: its name, its type and its constraints, if the name
and the type are bare. -/
theorem parts_of_lexemes {affinity : Affinity} (hlex : lex line = n :: t :: cs)
    (hn : n.isBare = true) (ht : t.isBare = true) (hnul : '\x00' ∉ line.toList)
    (hclass : Line.classify line = .column parts)
    (haffinity : Affinity.ofText parts.declaredType = .ok affinity) :
    n.gap.all isBlank = true ∧ parts.name.toList = n.text ∧ parts.declaredType.toList = t.text ∧
      parts.constraints.toList = textOf cs ∧ wordEnds (textOf cs) = true := by
  have hfront : lex line = [] ++ n :: t :: cs := hlex
  have hbehind : lex line = [n] ++ t :: cs := hlex
  obtain ⟨-, hnameNe, hname, hnameEnds, hnameGap⟩ := Lexeme.text_of_isBare hn hfront
  obtain ⟨-, htypeNe, htype, htypeEnds, htypeGap⟩ := Lexeme.text_of_isBare ht hbehind
  have hfirst : ∀ {cs : List Char}, cs ≠ [] → (∀ c ∈ cs, isPlainNameChar c = true) → ∀ rest,
      ∀ c ∈ (cs ++ rest).head?, isBlank c = false := by
    rintro cs hne hcs rest c hc
    rw [List.head?_append_of_ne_nil _ hne] at hc
    exact (facts_of_isPlainNameChar (hcs c (List.mem_of_mem_head? hc))).2.2.2
  have hline : line.toList = n.gap ++ (n.text ++ textOf (t :: cs)) := by
    rw [toList_eq_textOf hnul, hlex, textOf_cons]
  obtain ⟨typed, rest, hdigit, hblanks, halpha, hrest, hends, rfl⟩ :=
    exists_of_columnLine? (columnLine?_of_classify hclass)
  rw [hline] at hdigit hblanks haffinity ⊢
  rcases dropBlank_gap hnameGap (hfirst hnameNe hname _) with ⟨hgap, hdrop⟩ | ⟨c, behind, hdrop, hc⟩
  · refine ⟨hgap, ?_⟩
    have hnameEnds := not_isPlainNameChar_of_endsName hnameEnds
    rw [hdrop] at hdigit hblanks haffinity ⊢
    rw [dropWhile_append_of_all hname hnameEnds, textOf_cons] at hblanks
    rw [takeWhile_append_of_all hname hnameEnds]
    have htyped : typed = t.text ++ textOf cs := by
      rw [dropBlank_of_blanks? hblanks] at halpha ⊢
      rcases dropBlank_gap htypeGap (hfirst htypeNe htype _) with ⟨-, hdrop⟩ | ⟨c, behind, hdrop, hc⟩
      · exact hdrop
      · rw [hdrop, List.head?_cons, Option.any_some] at halpha
        rw [isPlainNameChar_of_isAlpha halpha] at hc
        cases hc
    have hrest : rest = textOf cs := by
      rw [htyped] at hrest
      rw [hrest] at hends ⊢
      exact dropWhile_isAlpha htype (not_isPlainNameChar_of_endsName htypeEnds) hends
    rw [htyped, hrest] at haffinity ⊢
    rw [hrest] at hends
    cases hsize : size? (textOf cs) with
    | none =>
      refine ⟨String.toList_ofList, ?_, String.toList_ofList, hends⟩
      rw [Option.getD_none, Outline.before, String.toList_ofList, List.length_append,
        Nat.add_sub_cancel, List.take_left]
    | some behind =>
      obtain ⟨size, hsized, hmem⟩ := exists_append_of_size? hsize
      refine absurd ?_ (Affinity.not_mem_of_ofText haffinity)
      rw [hsize, Option.getD_some, Outline.before, String.toList_ofList, hsized, ← List.append_assoc,
        List.length_append, Nat.add_sub_cancel, List.take_left]
      exact List.mem_append_right _ hmem
  · rw [hdrop, List.takeWhile_cons_of_neg (by simp [hc])] at hdigit
    cases hdigit

end Sql

end Tablewright
