import Mathlib.Tactic.Choose
import Tablewright.Proofs.AccessModule.EmbeddedScript
import Tablewright.Proofs.Naming.Identifiers

/-!
# Parts of generated source

How the parts are read that many lines of generated source are made of: comments, brackets, lists
with commas (`lexedBefore_intercalate`), and what comes from the options, which is paths only
(`exists_lexedBefore_path`, `exists_lexed_deriveAttribute`).
-/

namespace Tablewright.AccessModule

open Block Naming

/-! ## Comments -/

theorem isRemark_ofList (cs : List Char) : isRemark (String.ofList ('/' :: '/' :: cs)) = true := by
  rw [isRemark, String.toList_ofList]
  rfl

theorem isRemark_append {s : String} (h : isRemark s = true) (s' : String) :
    isRemark (s ++ s') = true := by
  rw [isRemark, List.isPrefixOf_iff_prefix] at h ⊢
  rw [String.toList_append]
  exact h.trans (List.prefix_append _ _)

/-! ## Names, brackets and commas -/

theorem IsName.lexed_tree {name : String} (h : IsName name.toList) :
    LexedBefore name (flatten [.word name]) :=
  h.lexedBefore

/-- Trees with a comma between any two. -/
def commaTrees (items : List (List Tree)) : List Tree :=
  [.mark ','].intercalate items

theorem lexed_comma : Lexed "," [.mark ','] :=
  lexed_ofList (by decide) fun _ => rfl

theorem endsNames_comma : EndsNames "," :=
  endsNames_ofList (by decide)

theorem lexed_curly : Lexed "\x7d" [.closing .curly] :=
  lexed_ofList (by decide) fun _ => rfl

theorem lexed_opening : Lexed " \x7b" [.opening .curly] :=
  lexed_ofList (by decide) fun _ => rfl

theorem endsNames_opening : EndsNames " \x7b" :=
  endsNames_ofList (by decide)

/-- A fixed name. -/
theorem lexed_word {cs : List Char} (hne : cs ≠ []) (hcs : cs.all isNamePart = true) :
    LexedBefore (String.ofList cs) (flatten [.word (String.ofList cs)]) := by
  refine IsName.lexed_tree ?_
  rw [String.toList_ofList]
  exact isName_of_forall hne (List.all_eq_true.1 hcs)

/-- Texts with commas between them. -/
theorem lexedBefore_intercalate {α : Type} {f : α → String} {g : α → List Tree} {l : List α}
    (h : ∀ a ∈ l, LexedBefore (f a) (flatten (g a))) :
    LexedBefore (String.intercalate ", " (l.map f)) (flatten (commaTrees (l.map g))) := by
  have hseparator : Lexed ", " [.mark ','] := lexed_ofList (by decide) fun _ => rfl
  have hends : EndsNames ", " := endsNames_ofList (by decide)
  induction l with
  | nil =>
    have hempty : Lexed "" [] := lexed_ofList (by decide) fun _ => rfl
    exact hempty.before
  | cons a l ih =>
    rw [List.forall_mem_cons] at h
    cases l with
    | nil => simpa [commaTrees] using h.1
    | cons a' l =>
      have htrees : commaTrees ((a :: a' :: l).map g) =
          g a ++ [.mark ','] ++ commaTrees ((a' :: l).map g) := List.intercalate_cons_cons ..
      rw [htrees, flatten_append, flatten_append, List.map_cons, List.map_cons,
        String.intercalate_cons_cons]
      exact (h.1.append hseparator hends).append_before (ih h.2)

/-! ## Paths -/

/-- A part of a path. -/
inductive IsPathPart : Tree → Prop
  | name (name : String) : IsPathPart (.word name)
  | colon : IsPathPart (.mark ':')

theorem isNamePart_of_isAlphanumeric {c : Char} (h : Text.isAlphanumeric c = true) :
    isNamePart c = true := by
  by_cases hascii : Text.isAscii c
  · rw [Text.isAlphanumeric, Text.isAlphabetic_ascii hascii, Text.isNumeric_ascii hascii] at h
    rw [isNamePart, Char.isAlphanum, h]
    rfl
  · exact isNamePart_of_not_ascii hascii

/-- Characters of a path have the tokens of names and colons, also behind what was read of a
name. -/
theorem exists_lex_path {cs : List Char} (h : ∀ c ∈ cs, isNamePart c = true ∨ c = ':') :
    (∃ ts, (∀ t ∈ ts, IsPathPart t) ∧ ∀ c rest, isBoundary c = true →
      lex (.between 0) (cs ++ c :: rest) = flatten ts ++ lex (.between 0) (c :: rest)) ∧
    ∀ read, ∃ ts, (∀ t ∈ ts, IsPathPart t) ∧ ∀ c rest, isBoundary c = true →
      lex (.word read) (cs ++ c :: rest) = flatten ts ++ lex (.between 0) (c :: rest) := by
  induction cs with
  | nil =>
    refine ⟨⟨[], by simp, fun _ _ _ => rfl⟩, fun read => ⟨[.word (String.ofList read)], ?_, ?_⟩⟩
    · simpa using .name _
    · intro c rest hc
      have hword := lex_word (List.forall_mem_nil fun c => isNamePart c = true) read hc rest
      rwa [List.append_nil] at hword
  | cons d cs ih =>
    obtain ⟨hd, hcs⟩ := List.forall_mem_cons.1 h
    obtain ⟨⟨ts, hts, hlex⟩, hword⟩ := ih hcs
    rcases hd with hd | rfl
    · obtain ⟨us, hus, hlex'⟩ := hword [d]
      refine ⟨⟨us, hus, fun c rest hc => ?_⟩, fun read => ?_⟩
      · have hfront : ((cs ++ c :: rest).dropWhile (· == '#')).head? ≠ some '"' := by
          cases cs with
          | nil => exact dropWhile_hash_name (List.forall_mem_nil _) hc
          | cons e cs =>
            rcases (List.forall_mem_cons.1 hcs).1 with he | rfl
            · have hhash := beq_eq_false_iff_ne.2 (ne_of_isNamePart he (d := '#') (by decide))
              have hquote := ne_of_isNamePart he (d := '"') (by decide)
              simp [hhash, hquote]
            · simp
        rw [List.cons_append, lex_between_cons, enter_name hd hfront]
        exact hlex' c rest hc
      · obtain ⟨us, hus, hlex'⟩ := hword (read ++ [d])
        refine ⟨us, hus, fun c rest hc => ?_⟩
        rw [List.cons_append, lex_word_cons, hd, Bool.true_or, if_pos rfl]
        exact hlex' c rest hc
    · have hcolon : ∀ c rest, isBoundary c = true → lex (.between 0) (':' :: cs ++ c :: rest) =
          flatten (.mark ':' :: ts) ++ lex (.between 0) (c :: rest) := fun c rest hc =>
        congrArg (Token.mark ':' :: ·) (hlex c rest hc)
      refine ⟨⟨.mark ':' :: ts, List.forall_mem_cons.2 ⟨.colon, hts⟩, hcolon⟩, fun read => ?_⟩
      refine ⟨.word (String.ofList read) :: .mark ':' :: ts,
        List.forall_mem_cons.2 ⟨.name _, List.forall_mem_cons.2 ⟨.colon, hts⟩⟩, fun c rest hc => ?_⟩
      have hends : ¬(isNamePart ':' || ':' == '#' && read == ['r']) = true := by
        rw [Bool.not_eq_true]
        rfl
      rw [List.cons_append, lex_word_cons, if_neg hends, ← List.cons_append, hcolon c rest hc]
      rfl

/-- A path is read as names and colons. -/
theorem exists_lexedBefore_path {path : String} (h : isPath path = true) :
    ∃ ts, (∀ t ∈ ts, IsPathPart t) ∧ LexedBefore path (flatten ts) := by
  have hparts : ∀ c ∈ path.toList, isNamePart c = true ∨ c = ':' := by
    intro c hc
    rcases mem_of_isPath h hc with hc | rfl | hc
    · exact .inl (isNamePart_of_isAlphanumeric hc)
    · exact .inl (by decide)
    · exact .inr hc
  obtain ⟨⟨ts, hts, hlex⟩, -⟩ := exists_lex_path hparts
  refine ⟨ts, hts, fun hfront => ?_, hlex⟩
  rcases hparts _ (List.mem_of_head? hfront) with h | h
  · revert h
    decide
  · cases h

theorem isPath_of_mem_derives {options : GeneratorOptions} (h : options.check = .ok ()) :
    ∀ d ∈ baseDerives ++ options.derives, isPath d = true := by
  have hbase : baseDerives.all isPath = true := by decide
  obtain ⟨-, hderives, -⟩ := check_eq_ok_iff.1 h
  exact List.forall_mem_append.2 ⟨List.all_eq_true.1 hbase, hderives⟩

/-- An attribute with what its brackets hold. -/
def attributeTrees (inner : List Tree) : List Tree :=
  [.mark '#', .group .square inner]

theorem exists_lexed_deriveAttribute {options : GeneratorOptions} (h : options.check = .ok ()) :
    ∃ inner, Lexed options.deriveAttribute (flatten (attributeTrees inner)) := by
  have hopen : Lexed "#[derive(" [.mark '#', .opening .square, .word "derive", .opening .round] :=
    lexed_ofList (by decide) fun _ => rfl
  have hclose : Lexed ")]" [.closing .round, .closing .square] :=
    lexed_ofList (by decide) fun _ => rfl
  have hends : EndsNames ")]" := endsNames_ofList (by decide)
  have hpath : ∀ d, ∃ ts, d ∈ baseDerives ++ options.derives → LexedBefore d (flatten ts) := by
    intro d
    by_cases hd : d ∈ baseDerives ++ options.derives
    · obtain ⟨ts, -, hts⟩ := exists_lexedBefore_path (isPath_of_mem_derives h d hd)
      exact ⟨ts, fun _ => hts⟩
    · exact ⟨[], fun h => absurd h hd⟩
  choose g hg using hpath
  have hlist := lexedBefore_intercalate (f := id) hg
  rw [List.map_id] at hlist
  refine ⟨[.word "derive", .group .round (commaTrees ((baseDerives ++ options.derives).map g))], ?_⟩
  have htrees : flatten (attributeTrees
      [.word "derive", .group .round (commaTrees ((baseDerives ++ options.derives).map g))]) =
      [.mark '#', .opening .square, .word "derive", .opening .round] ++
        flatten (commaTrees ((baseDerives ++ options.derives).map g)) ++
        [.closing .round, .closing .square] := by
    simp [attributeTrees, Tree.tokens]
  rw [htrees]
  exact (hopen.append_before hlist).append hclose hends

end Tablewright.AccessModule
