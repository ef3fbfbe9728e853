import Mathlib.Data.List.Basic
import Tablewright.AccessModule.Block
import Tablewright.Proofs.AccessModule.LiteralReading
import Tablewright.Text.Lines

/-!
# Generated source read back

Source text of the generated language is read in two steps. `lex` cuts it into tokens: names,
string literals with the text they stand for, and single marks; white space and comments leave
nothing behind. `readTrees` then puts what stands between brackets into groups.

A piece of text is `Lexed` if it has its tokens whatever follows it, and `LexedBefore` if it has
them in front of a character that ends a name. The lines of a block that are no comments have the
tokens of the block at whatever depth they stand (`Block.Spells`), and so does the whole block if
its comments keep to comment lines (`Block.Spells.lex_code`, `Block.Spells.lex_render`). The tokens
of trees are read back as the trees (`readTrees_flatten`).
-/

namespace Tablewright.AccessModule

open Text

/-! ## Tokens -/

/-- A kind of brackets. -/
inductive Bracket
  | round
  | square
  | curly
  deriving DecidableEq, Repr

/-- A token of source text. -/
inductive Token
  /-- A name or a keyword; a raw identifier with its `r#`. -/
  | word (name : String)
  /-- A string literal. -/
  | text (content : String)
  | mark (c : Char)
  | opening (b : Bracket)
  | closing (b : Bracket)
  deriving DecidableEq, Repr

/-- Whether a character can stand in a name. All characters above ASCII are taken for such. -/
def isNamePart (c : Char) : Bool :=
  c.isAlphanum || c == '_' || 128 ≤ c.toNat

/-- The token of a character that stands for itself. -/
def single (c : Char) : Token :=
  match c with
  | '(' => .opening .round
  | ')' => .closing .round
  | '[' => .opening .square
  | ']' => .closing .square
  | '\x7b' => .opening .curly
  | '\x7d' => .closing .curly
  | c => .mark c

/-- Where a lexer stands. -/
inductive Place
  /-- Between tokens, once it has gone past so many characters of a literal. -/
  | between (skipping : Nat)
  /-- In a comment, which ends with its line. -/
  | comment
  /-- Behind what was read of a name. -/
  | word (read : List Char)

/-- What begins with a character between tokens: the token, if it is complete, and where the lexer
goes on. -/
def enter (c : Char) (rest : List Char) : List Token × Place :=
  match readLiteral (c :: rest) with
  | some (content, after) => ([.text (String.ofList content)], .between (rest.length - after.length))
  | none =>
    if c == '/' && rest.head? == some '/' then ([], .comment)
    else if isNamePart c then ([], .word [c])
    else if Json.isSpace c then ([], .between 0)
    else ([single c], .between 0)

/-- The tokens of a text, from a place on. -/
def lex : Place → List Char → List Token
  | .word read, [] => [.word (String.ofList read)]
  | .between _, [] => []
  | .comment, [] => []
  | .between (n + 1), _ :: rest => lex (.between n) rest
  | .between 0, c :: rest => (enter c rest).1 ++ lex (enter c rest).2 rest
  | .comment, c :: rest => lex (if c == '\n' then .between 0 else .comment) rest
  | .word read, c :: rest =>
    if isNamePart c || (c == '#' && read == ['r']) then lex (.word (read ++ [c])) rest
    else .word (String.ofList read) :: ((enter c rest).1 ++ lex (enter c rest).2 rest)

theorem lex_between_cons (c : Char) (rest : List Char) :
    lex (.between 0) (c :: rest) = (enter c rest).1 ++ lex (enter c rest).2 rest :=
  rfl

theorem lex_word_cons (read : List Char) (c : Char) (rest : List Char) :
    lex (.word read) (c :: rest) =
      if isNamePart c || (c == '#' && read == ['r']) then lex (.word (read ++ [c])) rest
      else .word (String.ofList read) :: lex (.between 0) (c :: rest) :=
  rfl

/-! ## Pieces of text -/

/-- Whether a character ends a name in front of it, and begins no literal together with it. -/
def isBoundary (c : Char) : Bool :=
  !isNamePart c && c != '#' && c != '"'

/-- A text has the tokens, whatever follows it, and does not begin like a comment. -/
structure Lexed (s : String) (ts : List Token) : Prop where
  front : s.toList.head? ≠ some '/'
  lex : ∀ rest, lex (.between 0) (s.toList ++ rest) = ts ++ lex (.between 0) rest

/-- A text has the tokens in front of a character that ends a name, and does not begin like a
comment. -/
structure LexedBefore (s : String) (ts : List Token) : Prop where
  front : s.toList.head? ≠ some '/'
  lex : ∀ c rest, isBoundary c = true →
    lex (.between 0) (s.toList ++ c :: rest) = ts ++ lex (.between 0) (c :: rest)

/-- A text begins with a character that ends a name. -/
def EndsNames (s : String) : Prop :=
  ∃ c rest, s.toList = c :: rest ∧ isBoundary c = true

section Pieces

variable {s s' : String} {ts ts' : List Token}

/-- A fixed text: what it is read as can be computed. -/
theorem lexed_ofList {cs : List Char} (hfront : cs.head? ≠ some '/')
    (hlex : ∀ rest, lex (.between 0) (cs ++ rest) = ts ++ lex (.between 0) rest) :
    Lexed (String.ofList cs) ts := by
  constructor <;> rw [String.toList_ofList]
  · exact hfront
  · exact hlex

theorem endsNames_ofList {c : Char} {rest : List Char} (h : isBoundary c = true) :
    EndsNames (String.ofList (c :: rest)) :=
  ⟨c, rest, String.toList_ofList, h⟩

theorem EndsNames.append (h : EndsNames s) (s' : String) : EndsNames (s ++ s') := by
  obtain ⟨c, rest, hs, hc⟩ := h
  exact ⟨c, rest ++ s'.toList, by rw [String.toList_append, hs]; rfl, hc⟩

theorem head?_append_ne (h : s.toList.head? ≠ some '/') (h' : s'.toList.head? ≠ some '/') :
    (s ++ s').toList.head? ≠ some '/' := by
  rw [String.toList_append]
  cases hs : s.toList with
  | nil => exact h'
  | cons c cs => rwa [hs] at h

theorem Lexed.append (h : Lexed s ts) (h' : Lexed s' ts') : Lexed (s ++ s') (ts ++ ts') where
  front := head?_append_ne h.front h'.front
  lex rest := by rw [String.toList_append, List.append_assoc, h.lex, h'.lex, List.append_assoc]

theorem Lexed.before (h : Lexed s ts) : LexedBefore s ts :=
  ⟨h.front, fun c rest _ => h.lex (c :: rest)⟩

theorem Lexed.append_before (h : Lexed s ts) (h' : LexedBefore s' ts') :
    LexedBefore (s ++ s') (ts ++ ts') where
  front := head?_append_ne h.front h'.front
  lex c rest hc := by
    rw [String.toList_append, List.append_assoc, h.lex, h'.lex c rest hc, List.append_assoc]

theorem LexedBefore.append (h : LexedBefore s ts) (h' : Lexed s' ts') (hends : EndsNames s') :
    Lexed (s ++ s') (ts ++ ts') := by
  obtain ⟨c, rest, hs', hc⟩ := hends
  refine ⟨head?_append_ne h.front h'.front, fun after => ?_⟩
  rw [String.toList_append, List.append_assoc, hs', List.cons_append, h.lex c _ hc,
    ← List.cons_append, ← hs', h'.lex, List.append_assoc]

theorem LexedBefore.append_before (h : LexedBefore s ts) (h' : LexedBefore s' ts')
    (hends : EndsNames s') : LexedBefore (s ++ s') (ts ++ ts') := by
  obtain ⟨c, rest, hs', hc⟩ := hends
  refine ⟨head?_append_ne h.front h'.front, fun d after hd => ?_⟩
  rw [String.toList_append, List.append_assoc, hs', List.cons_append, h.lex c _ hc,
    ← List.cons_append, ← hs', h'.lex d _ hd, List.append_assoc]

end Pieces

/-! ## Literals -/

theorem lex_between (cs rest : List Char) :
    lex (.between cs.length) (cs ++ rest) = lex (.between 0) rest := by
  induction cs with
  | nil => rfl
  | cons c cs ih => exact ih

/-- A literal that is read as a text is one token. -/
theorem lexed_of_readLiteral {literal content : String} (hfront : literal.toList.head? ≠ some '/')
    (hread : ∀ rest, readLiteral (literal.toList ++ rest) = some (content.toList, rest)) :
    Lexed literal [.text content] := by
  refine ⟨hfront, fun rest => ?_⟩
  have hrest := hread rest
  cases hcs : literal.toList with
  | nil =>
    rw [hcs] at hread
    cases hread []
  | cons c cs =>
    rw [hcs, List.cons_append] at hrest
    have hlength : (cs ++ rest).length - rest.length = cs.length := by simp
    rw [List.cons_append, lex, enter, hrest]
    simp only [String.ofList_toList, hlength, lex_between]

theorem lexed_quote (s : String) : Lexed (quote s) [.text s] :=
  lexed_of_readLiteral (by simp [quote]) (readLiteral_quote s)

theorem lexed_literal (s : String) : Lexed (literal s) [.text s] := by
  refine lexed_of_readLiteral ?_ (readLiteral_literal s)
  rw [literal]
  split
  · simp [quote]
  · simp [rawLiteral]

/-! ## Names -/

/-- A name: characters that can stand in names, behind `r#` in a raw identifier. -/
def IsName (cs : List Char) : Prop :=
  ∃ c tail, (cs = c :: tail ∨ cs = 'r' :: '#' :: c :: tail) ∧ ∀ d ∈ c :: tail, isNamePart d = true

theorem isName_of_forall {cs : List Char} (hne : cs ≠ []) (h : ∀ c ∈ cs, isNamePart c = true) :
    IsName cs := by
  obtain ⟨c, tail, rfl⟩ := List.exists_cons_of_ne_nil hne
  exact ⟨c, tail, .inl rfl, h⟩

theorem ne_of_isNamePart {c d : Char} (hc : isNamePart c = true) (hd : isNamePart d = false) :
    c ≠ d := by
  rintro rfl
  rw [hc] at hd
  cases hd

/-- What begins like a name is a literal only if it is `r` and a quote, with hashes between. -/
theorem enter_name {c : Char} {rest : List Char} (hc : isNamePart c = true)
    (hrest : (rest.dropWhile (· == '#')).head? ≠ some '"') : enter c rest = ([], .word [c]) := by
  have hliteral : readLiteral (c :: rest) = none := by
    have hquote : c ≠ '"' := ne_of_isNamePart hc (by decide)
    unfold readLiteral
    split
    · rename_i heq
      exact absurd (List.cons.inj heq).1 hquote
    · rename_i heq
      rw [(List.cons.inj heq).2] at hrest
      split
      · rename_i hbody
        rw [hbody] at hrest
        exact absurd rfl hrest
      · rfl
    · rfl
  have hslash : (c == '/') = false := beq_eq_false_iff_ne.2 (ne_of_isNamePart hc (by decide))
  rw [enter, hliteral, hslash]
  simp [hc]

/-- The rest of a name is read up to the end of the name. -/
theorem lex_word {cs : List Char} (h : ∀ c ∈ cs, isNamePart c = true) (read : List Char) {c : Char}
    (hc : isBoundary c = true) (rest : List Char) : lex (.word read) (cs ++ c :: rest) =
      .word (String.ofList (read ++ cs)) :: lex (.between 0) (c :: rest) := by
  induction cs generalizing read with
  | nil =>
    simp only [isBoundary, Bool.and_eq_true, Bool.not_eq_true', bne_iff_ne] at hc
    rw [List.nil_append, List.append_nil, lex_word_cons, hc.1.1, beq_eq_false_iff_ne.2 hc.1.2]
    rfl
  | cons d cs ih =>
    have hd : isNamePart d = true := h d List.mem_cons_self
    rw [List.cons_append, lex_word_cons, hd, Bool.true_or, if_pos rfl,
      ih (fun e he => h e (List.mem_cons_of_mem d he)), List.append_assoc]
    rfl

theorem isBoundary_ne {c d : Char} (hc : isBoundary c = true) (hd : isBoundary d = false) :
    c ≠ d := by
  rintro rfl
  rw [hc] at hd
  cases hd

theorem dropWhile_hash_name {cs rest : List Char} (h : ∀ c ∈ cs, isNamePart c = true) {c : Char}
    (hc : isBoundary c = true) :
    ((cs ++ c :: rest).dropWhile (· == '#')).head? ≠ some '"' := by
  have hfront : ∀ d : Char, isNamePart d = true ∨ isBoundary d = true →
      (d == '#') = false ∧ d ≠ '"' := by
    rintro d (hd | hd)
    · exact ⟨beq_eq_false_iff_ne.2 (ne_of_isNamePart hd (by decide)),
        ne_of_isNamePart hd (by decide)⟩
    · exact ⟨beq_eq_false_iff_ne.2 (isBoundary_ne hd (by decide)), isBoundary_ne hd (by decide)⟩
  cases cs with
  | nil =>
    obtain ⟨hhash, hquote⟩ := hfront c (.inr hc)
    simp [hhash, hquote]
  | cons d cs =>
    obtain ⟨hhash, hquote⟩ := hfront d (.inl (h d List.mem_cons_self))
    simp [hhash, hquote]

/-- **A name is one token.** -/
theorem IsName.lexedBefore {name : String} (h : IsName name.toList) :
    LexedBefore name [.word name] := by
  obtain ⟨c, tail, hname, hparts⟩ := h
  obtain ⟨hc, htail⟩ := List.forall_mem_cons.1 hparts
  have hword : ∀ {cs : List Char}, name.toList = cs → String.ofList cs = name := by
    rintro _ rfl
    exact String.ofList_toList
  rcases hname with hname | hname
  · refine ⟨?_, fun d rest hd => ?_⟩
    · rw [hname, List.head?_cons, Ne, Option.some.injEq]
      exact ne_of_isNamePart hc (by decide)
    · rw [hname, List.cons_append, lex_between_cons, enter_name hc (dropWhile_hash_name htail hd),
        List.nil_append, lex_word htail [c] hd, List.singleton_append, hword hname]
      rfl
  · refine ⟨?_, fun d rest hd => ?_⟩
    · rw [hname, List.head?_cons, Ne, Option.some.injEq]
      decide
    · have hraw : (('#' :: (c :: tail ++ d :: rest)).dropWhile (· == '#')).head? ≠ some '"' :=
        dropWhile_hash_name hparts hd
      rw [hname, List.cons_append, List.cons_append, lex_between_cons, enter_name (by decide) hraw,
        List.nil_append, lex_word_cons, if_pos (by decide), lex_word hparts _ hd, ← hword hname]
      rfl

/-- A fixed text that ends in a name: what it is read as can be computed, up to its end. -/
theorem lexedBefore_ofList {cs read : List Char} {ts : List Token} (hfront : cs.head? ≠ some '/')
    (hlex : ∀ rest, lex (.between 0) (cs ++ rest) = ts ++ lex (.word read) rest) :
    LexedBefore (String.ofList cs) (ts ++ [.word (String.ofList read)]) := by
  refine ⟨by rwa [String.toList_ofList], fun c rest hc => ?_⟩
  have hread := lex_word (List.forall_mem_nil fun c => isNamePart c = true) read hc rest
  rw [List.nil_append, List.append_nil] at hread
  rw [String.toList_ofList, hlex, hread, List.append_assoc]
  rfl

/-! ## Comments -/

/-- The physical lines of a text. -/
def physicalLines : List Char → List (List Char)
  | [] => [[]]
  | c :: rest => if c == '\n' then [] :: physicalLines rest else consFirst c (physicalLines rest)

/-- Whether a physical line begins with two slashes, after its indentation. -/
def isCommentLine (line : List Char) : Bool :=
  ['/', '/'].isPrefixOf (line.dropWhile (· == ' '))

/-- Every physical line of a text is a comment line. -/
def StaysComment (cs : List Char) : Prop :=
  ∀ line ∈ physicalLines cs, isCommentLine line = true

theorem physicalLines_ne_nil (cs : List Char) : physicalLines cs ≠ [] := by
  cases cs with
  | nil => exact List.cons_ne_nil _ _
  | cons c cs =>
    rw [physicalLines]
    split
    · exact List.cons_ne_nil _ _
    · cases physicalLines cs <;> exact List.cons_ne_nil _ _

theorem physicalLines_of_not_mem {cs : List Char} (h : '\n' ∉ cs) : physicalLines cs = [cs] := by
  induction cs with
  | nil => rfl
  | cons c cs ih =>
    obtain ⟨hc, hcs⟩ : '\n' ≠ c ∧ '\n' ∉ cs := by simpa using h
    rw [physicalLines, beq_eq_false_iff_ne.2 (Ne.symm hc), ih hcs]
    rfl

theorem physicalLines_append {line : List Char} (h : '\n' ∉ line) (rest : List Char) :
    physicalLines (line ++ '\n' :: rest) = line :: physicalLines rest := by
  induction line with
  | nil => rfl
  | cons c line ih =>
    obtain ⟨hc, hline⟩ : '\n' ≠ c ∧ '\n' ∉ line := by simpa using h
    rw [List.cons_append, physicalLines, beq_eq_false_iff_ne.2 (Ne.symm hc), ih hline]
    rfl

/-- A text is its first line, which holds no line feed, and after a line feed the others. -/
theorem exists_line_or_not_mem (cs : List Char) :
    '\n' ∉ cs ∨ ∃ line rest, '\n' ∉ line ∧ cs = line ++ '\n' :: rest := by
  by_cases h : '\n' ∈ cs
  · obtain ⟨line, rest, hcs, hline⟩ := List.eq_append_cons_of_mem h
    exact .inr ⟨line, rest, hline, hcs⟩
  · exact .inl h

/-- Text goes line by line: an induction on its lines. -/
theorem lines_induction {p : List Char → Prop} (hlast : ∀ line, '\n' ∉ line → p line)
    (hline : ∀ line rest, '\n' ∉ line → p rest → p (line ++ '\n' :: rest)) (cs : List Char) :
    p cs := by
  generalize hn : cs.length = n
  induction n using Nat.strongRecOn generalizing cs with
  | ind n ih =>
    obtain hcs | ⟨line, rest, hnot, rfl⟩ := exists_line_or_not_mem cs
    · exact hlast cs hcs
    · exact hline line rest hnot (ih rest.length (by simp at hn; omega) rest rfl)

theorem staysComment_iff_of_not_mem {cs : List Char} (h : '\n' ∉ cs) :
    StaysComment cs ↔ isCommentLine cs = true := by
  rw [StaysComment, physicalLines_of_not_mem h, List.forall_mem_singleton]

theorem staysComment_append {line : List Char} (h : '\n' ∉ line) (rest : List Char) :
    StaysComment (line ++ '\n' :: rest) ↔ isCommentLine line = true ∧ StaysComment rest := by
  rw [StaysComment, physicalLines_append h, List.forall_mem_cons, StaysComment]

theorem lex_comment {cs : List Char} (h : '\n' ∉ cs) (rest : List Char) :
    lex .comment (cs ++ '\n' :: rest) = lex (.between 0) rest := by
  induction cs with
  | nil => rfl
  | cons c cs ih =>
    obtain ⟨hc, hcs⟩ : '\n' ≠ c ∧ '\n' ∉ cs := by simpa using h
    rw [List.cons_append, lex, beq_eq_false_iff_ne.2 (Ne.symm hc)]
    exact ih hcs

theorem lex_newline (rest : List Char) : lex (.between 0) ('\n' :: rest) = lex (.between 0) rest :=
  rfl

theorem lex_replicate_space (n : Nat) (rest : List Char) :
    lex (.between 0) (List.replicate n ' ' ++ rest) = lex (.between 0) rest := by
  induction n with
  | zero => rfl
  | succ n ih => exact ih

/-- A comment line has no tokens. -/
theorem lex_commentLine {line : List Char} (hline : '\n' ∉ line) (h : isCommentLine line = true)
    (rest : List Char) : lex (.between 0) (line ++ '\n' :: rest) = lex (.between 0) rest := by
  induction line with
  | nil => cases h
  | cons c line ih =>
    rw [isCommentLine, List.dropWhile_cons] at h
    have hmore : '\n' ∉ line := fun hmem => hline (List.mem_cons_of_mem c hmem)
    split at h
    · rename_i hc
      rw [beq_iff_eq.1 hc]
      exact ih hmore h
    · cases line with
      | nil => simp [List.isPrefixOf] at h
      | cons d line =>
        obtain ⟨rfl, rfl⟩ : '/' = c ∧ '/' = d := by simpa [List.isPrefixOf] using h
        exact lex_comment hmore rest

/-- **Text that stays comment has no tokens.** -/
theorem lex_staysComment {cs : List Char} (h : StaysComment cs) (rest : List Char) :
    lex (.between 0) (cs ++ '\n' :: rest) = lex (.between 0) rest := by
  induction cs using lines_induction with
  | hlast line hline => exact lex_commentLine hline ((staysComment_iff_of_not_mem hline).1 h) rest
  | hline line more hline ih =>
    obtain ⟨hfirst, hmore⟩ := (staysComment_append hline more).1 h
    rw [List.append_assoc, List.cons_append, lex_commentLine hline hfirst]
    exact ih hmore

/-! ## Lines and blocks -/

/-- A text that is written as a comment. -/
def isRemark (text : String) : Bool :=
  ['/', '/'].isPrefixOf text.toList

/-- Whether a line was written as a comment. -/
def Line.isComment : Line → Bool
  | .code _ text => isRemark text
  | .blank => false

namespace Block

/-- The lines that are no comments. -/
def code (b : Block) : Block :=
  b.filter fun l => !l.isComment

/-- Every physical line of a line that was written as a comment is a comment line. -/
def CommentsContained (b : Block) : Prop :=
  ∀ l ∈ b, l.isComment = true → StaysComment l.render.toList

/-- What a block says, line by line: its remarks in comments, and the tokens of its code. -/
inductive Spells : Block → List String → List Token → Prop
  | nil : Spells [] [] []
  | blank {b : Block} {rs : List String} {ts : List Token} (h : Spells b rs ts) :
    Spells (.blank :: b) rs ts
  | comment {b : Block} {rs : List String} {ts : List Token} {depth : Nat} {text : String}
    (htext : isRemark text = true) (h : Spells b rs ts) :
    Spells (.code depth text :: b) (text :: rs) ts
  | code {b : Block} {rs : List String} {ts us : List Token} {depth : Nat} {text : String}
    (htext : LexedBefore text us) (h : Spells b rs ts) :
    Spells (.code depth text :: b) rs (us ++ ts)

end Block

theorem not_isRemark {text : String} {ts : List Token} (h : LexedBefore text ts) :
    isRemark text = false := by
  have hfront := h.front
  rw [isRemark]
  cases hcs : text.toList with
  | nil => rfl
  | cons c cs =>
    rw [hcs, List.head?_cons, Ne, Option.some.injEq] at hfront
    rw [List.isPrefixOf, beq_eq_false_iff_ne.2 (Ne.symm hfront), Bool.false_and]

/-- Indentation changes nothing about comment lines. -/
theorem staysComment_render {depth : Nat} {text : String} :
    StaysComment (Line.code depth text).render.toList ↔ StaysComment text.toList := by
  rw [Line.render, String.toList_append, String.toList_ofList]
  induction 4 * depth with
  | zero => rfl
  | succ n ih =>
    rw [← ih, List.replicate_succ, List.cons_append, StaysComment, physicalLines, StaysComment]
    obtain ⟨line, lines, hlines⟩ := List.exists_cons_of_ne_nil
      (physicalLines_ne_nil (List.replicate n ' ' ++ text.toList))
    rw [if_neg (by decide), hlines, consFirst, List.forall_mem_cons, List.forall_mem_cons]
    rfl

namespace Block.Spells

variable {b b' : Block} {rs rs' : List String} {ts ts' : List Token} {o c : String}
  {os cs : List Token}

theorem append (h : Spells b rs ts) (h' : Spells b' rs' ts') :
    Spells (b ++ b') (rs ++ rs') (ts ++ ts') := by
  induction h with
  | nil => exact h'
  | blank _ ih => exact .blank ih
  | comment htext _ ih => exact .comment htext ih
  | code htext _ ih =>
    rw [List.append_assoc]
    exact .code htext ih

theorem indent (h : Spells b rs ts) : Spells b.indent rs ts := by
  induction h with
  | nil => exact .nil
  | blank _ ih => exact .blank ih
  | comment htext _ ih => exact .comment htext ih
  | code htext _ ih => exact .code htext ih

theorem line (h : LexedBefore o os) : Spells (line o) [] os := by
  have hline : Spells [.code 0 o] [] (os ++ []) := code h nil
  rwa [List.append_nil] at hline

theorem remark (h : isRemark o = true) : Spells (Block.line o) [o] [] :=
  .comment h .nil

theorem wrap (ho : LexedBefore o os) (h : Spells b rs ts) (hc : LexedBefore c cs) :
    Spells (Block.wrap o b c) rs (os ++ ts ++ cs) := by
  have hwrap := ((line ho).append h.indent).append (line hc)
  rwa [List.nil_append, List.append_nil] at hwrap

theorem flatMap {α : Type} {f : α → Block} {g : α → List Token} {l : List α}
    (h : ∀ a ∈ l, Spells (f a) [] (g a)) : Spells (l.flatMap f) [] (l.flatMap g) := by
  induction l with
  | nil => exact .nil
  | cons a l ih =>
    rw [List.forall_mem_cons] at h
    exact h.1.append (ih h.2)

theorem separated_one (h : Spells b rs ts) : Spells (Block.separated [b]) rs ts :=
  h

theorem separated_cons {bs : List Block} (h : Spells b rs ts)
    (hrest : Spells (Block.separated bs) rs' ts') :
    Spells (Block.separated (b :: bs)) (rs ++ rs') (ts ++ ts') := by
  cases bs with
  | nil =>
    cases hrest
    rwa [Block.separated, List.append_nil, List.append_nil]
  | cons b' bs =>
    rw [Block.separated.eq_3 _ _ (by simp), List.append_assoc]
    exact h.append (.blank hrest)

theorem separated {α : Type} {f : α → Block} {g : α → List Token} {l : List α}
    (h : ∀ a ∈ l, Spells (f a) [] (g a)) :
    Spells (Block.separated (l.map f)) [] (l.flatMap g) := by
  induction l with
  | nil => exact .nil
  | cons a l ih =>
    rw [List.forall_mem_cons] at h
    exact separated_cons h.1 (ih h.2)

/-- A block keeps to its comment lines if all its remarks do. -/
theorem commentsContained_iff (h : Spells b rs ts) :
    b.CommentsContained ↔ ∀ text ∈ rs, StaysComment text.toList := by
  induction h with
  | nil => simp [CommentsContained]
  | blank _ ih =>
    rw [← ih, CommentsContained, List.forall_mem_cons]
    simp [CommentsContained, Line.isComment]
  | comment htext _ ih =>
    rw [CommentsContained, List.forall_mem_cons, List.forall_mem_cons, ← ih, CommentsContained,
      staysComment_render]
    simp [Line.isComment, htext]
  | code htext _ ih =>
    rw [← ih, CommentsContained, List.forall_mem_cons]
    simp [CommentsContained, Line.isComment, not_isRemark htext]

/-- A line of code is read where it stands. -/
theorem lex_line {text : String} (h : LexedBefore text ts) (depth : Nat)
    (rest : List Char) : lex (.between 0) ((Line.code depth text).render.toList ++ '\n' :: rest) =
      ts ++ lex (.between 0) rest := by
  rw [Line.render, String.toList_append, String.toList_ofList, List.append_assoc,
    lex_replicate_space, h.lex '\n' rest (by decide), lex_newline]

theorem toList_render_cons (l : Line) (b : Block) (rest : List Char) :
    (render (l :: b)).toList ++ rest = l.render.toList ++ '\n' :: ((render b).toList ++ rest) := by
  simp [render, String.toList_join]

/-- **The code of a block is read as its tokens.** -/
theorem lex_code (h : Spells b rs ts) (rest : List Char) :
    lex (.between 0) ((render b.code).toList ++ rest) = ts ++ lex (.between 0) rest := by
  induction h with
  | nil => rfl
  | blank _ ih =>
    rw [Block.code, List.filter_cons_of_pos (by rfl), ← Block.code, toList_render_cons]
    exact ih
  | comment htext _ ih =>
    rw [Block.code, List.filter_cons_of_neg (by simp [Line.isComment, htext])]
    exact ih
  | code htext _ ih =>
    rw [Block.code, List.filter_cons_of_pos (by simp [Line.isComment, not_isRemark htext]),
      ← Block.code, toList_render_cons, lex_line htext, ih, List.append_assoc]

/-- **A block whose comments are contained is read as its tokens.** -/
theorem lex_render (h : Spells b rs ts) (hcomments : b.CommentsContained) (rest : List Char) :
    lex (.between 0) ((render b).toList ++ rest) = ts ++ lex (.between 0) rest := by
  induction h with
  | nil => rfl
  | blank _ ih =>
    rw [toList_render_cons]
    exact ih fun l hl => hcomments l (List.mem_cons_of_mem _ hl)
  | comment htext _ ih =>
    rw [toList_render_cons, lex_staysComment (hcomments _ List.mem_cons_self htext)]
    exact ih fun l hl => hcomments l (List.mem_cons_of_mem _ hl)
  | code htext _ ih =>
    rw [toList_render_cons, lex_line htext,
      ih fun l hl => hcomments l (List.mem_cons_of_mem _ hl), List.append_assoc]

end Block.Spells

/-! ## Trees -/

/-- Source text between brackets is a group. -/
inductive Tree
  | word (name : String)
  | text (content : String)
  | mark (c : Char)
  | group (b : Bracket) (inner : List Tree)

mutual

/-- The tokens of a tree. -/
def Tree.tokens : Tree → List Token
  | .word name => [.word name]
  | .text content => [.text content]
  | .mark c => [.mark c]
  | .group b inner => .opening b :: (flatten inner ++ [.closing b])

/-- The tokens of trees. -/
def flatten : List Tree → List Token
  | [] => []
  | t :: ts => t.tokens ++ flatten ts

end

@[simp] theorem flatten_nil : flatten [] = [] := rfl

@[simp] theorem flatten_cons (t : Tree) (ts : List Tree) : flatten (t :: ts) = t.tokens ++ flatten ts :=
  rfl

@[simp] theorem flatten_append (ts us : List Tree) : flatten (ts ++ us) = flatten ts ++ flatten us := by
  induction ts with
  | nil => rfl
  | cons t ts ih => simp [ih]

theorem flatten_flatMap {α : Type} (l : List α) (f : α → List Tree) :
    flatten (l.flatMap f) = l.flatMap fun a => flatten (f a) := by
  induction l with
  | nil => rfl
  | cons a l ih => simp [ih]

/-- The trees of tokens, where `done` stands, last tree first, in front of the first token, and
`stack` holds the brackets open there, each with what stands in front of it. -/
def grow (stack : List (Bracket × List Tree)) (done : List Tree) : List Token → Option (List Tree)
  | [] => if stack.isEmpty then some done.reverse else none
  | .word name :: rest => grow stack (.word name :: done) rest
  | .text content :: rest => grow stack (.text content :: done) rest
  | .mark c :: rest => grow stack (.mark c :: done) rest
  | .opening b :: rest => grow ((b, done) :: stack) [] rest
  | .closing b :: rest =>
    match stack with
    | [] => none
    | (b', outer) :: stack =>
      if b = b' then grow stack (.group b done.reverse :: outer) rest else none

/-- The trees of tokens, if their brackets match. -/
def readTrees (ts : List Token) : Option (List Tree) :=
  grow [] [] ts

/-- The trees of a source text. -/
def readSource (text : String) : Option (List Tree) :=
  readTrees (lex (.between 0) text.toList)

mutual

theorem grow_tokens : ∀ (t : Tree) (stack : List (Bracket × List Tree)) (done : List Tree)
    (rest : List Token), grow stack done (t.tokens ++ rest) = grow stack (t :: done) rest
  | .word _, _, _, _ => rfl
  | .text _, _, _, _ => rfl
  | .mark _, _, _, _ => rfl
  | .group b inner, stack, done, rest => by
    rw [Tree.tokens, List.cons_append, List.append_assoc, grow, grow_flatten inner]
    simp [grow]

theorem grow_flatten : ∀ (ts : List Tree) (stack : List (Bracket × List Tree)) (done : List Tree)
    (rest : List Token), grow stack done (flatten ts ++ rest) = grow stack (ts.reverse ++ done) rest
  | [], _, _, _ => rfl
  | t :: ts, stack, done, rest => by
    rw [flatten, List.append_assoc, grow_tokens t, grow_flatten ts, List.reverse_cons,
      List.append_assoc]
    rfl

end

/-- **The tokens of trees are read back as the trees.** -/
theorem readTrees_flatten (ts : List Tree) : readTrees (flatten ts) = some ts := by
  have h := grow_flatten ts [] [] []
  rw [List.append_nil] at h
  simp [readTrees, h, grow]

/-- The trees of the code of a block, without its comments. -/
def Block.trees? (b : Block) : Option (List Tree) :=
  readSource (render b.code)

theorem Block.Spells.trees?_eq {b : Block} {rs : List String} {ts : List Tree}
    (h : b.Spells rs (flatten ts)) :
    b.trees? = some ts := by
  have hlex := h.lex_code []
  rw [List.append_nil] at hlex
  rw [Block.trees?, readSource, hlex]
  simp [lex, readTrees_flatten]

end Tablewright.AccessModule
