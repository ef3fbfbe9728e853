import Tablewright.Extraction.Catalog
import Tablewright.Proofs.Outline.Phrases

/-!
# The search for AUTOINCREMENT

What the text of a definition tells about a column. The search finds nothing where the keyword does
not stand as a word of its own (`contains_of_declaresIncrement`). It finds the keyword behind a name,
if white space stands directly behind the name and no comma between them (`declaresIncrement_of_marked`).
-/

namespace Tablewright.Outline

open Text

/-! ## Phrases in a longer text -/

variable {ks : List String} {cs more : List Char} {before : Option Char}

theorem wordEnds_append {rest : List Char} (h : wordEnds rest = true) (hm : wordEnds more = true) :
    wordEnds (rest ++ more) = true := by
  cases rest with
  | nil => exact hm
  | cons c rest => exact h

theorem beginsWith_append (hks : ∀ k ∈ ks, k ≠ "") (h : beginsWith ks cs = true)
    (hm : wordEnds more = true) : beginsWith ks (cs ++ more) = true := by
  obtain ⟨rest, hrest, hends⟩ := beginsWith_iff.1 h
  exact beginsWith_iff.2 ⟨_, keywords?_append hks hrest more, wordEnds_append hends hm⟩

theorem contains_cons {c : Char} (h : contains ks (some c) cs = true) :
    contains ks before (c :: cs) = true := by
  rw [contains, h, Bool.or_true]

/-- What a text contains is still there if something is put behind it. -/
theorem contains_append (hks : ∀ k ∈ ks, k ≠ "") (h : contains ks before cs = true)
    (hm : wordEnds more = true) : contains ks before (cs ++ more) = true := by
  induction cs generalizing before with
  | nil => cases h
  | cons c cs ih =>
    rw [contains, Bool.or_eq_true, Bool.and_eq_true] at h
    rw [List.cons_append, contains, Bool.or_eq_true, Bool.and_eq_true]
    rcases h with ⟨hbegins, h⟩ | h
    · exact .inl ⟨hbegins, beginsWith_append hks h hm⟩
    · exact .inr (ih h)

/-- What a text contains is still there if something is put in front of it. -/
theorem contains_append_left {c : Char} (front : List Char) (h : contains ks (some c) cs = true) :
    contains ks before (front ++ c :: cs) = true := by
  induction front generalizing before with
  | nil => exact contains_cons h
  | cons d front ih => exact contains_cons ih

/-- A phrase that begins somewhere in a text, where a word may begin. -/
theorem contains_of_beginsWith {front : List Char} (h : beginsWith ks cs = true) (hne : cs ≠ [])
    (hbegins : wordBegins (front.getLast?.or before) = true) :
    contains ks before (front ++ cs) = true := by
  induction front generalizing before with
  | nil =>
    obtain ⟨c, cs, rfl⟩ := List.exists_cons_of_ne_nil hne
    have hb : wordBegins before = true := hbegins
    rw [List.nil_append, contains, hb, h]
    rfl
  | cons c front ih =>
    refine contains_cons (ih ?_)
    cases front with
    | nil => exact hbegins
    | cons d front =>
      rw [List.getLast?_cons_cons] at hbegins
      rw [List.getLast?_cons] at hbegins ⊢
      exact hbegins

/-- A word is the phrase it folds to. -/
theorem beginsWith_word {word rest : List Char} {k : String} (h : word.map foldCase = k.toList)
    (hends : wordEnds rest = true) : beginsWith [k] (word ++ rest) = true := by
  refine beginsWith_iff.2 ⟨rest, ?_, hends⟩
  rw [keywords?, ← h, keyword?_append_self]

end Tablewright.Outline

namespace Tablewright.Catalog

open Text Outline

/-! ## Names in a text -/

variable {name cs rest : List Char}

theorem exists_append_of_takeName? (h : takeName? name cs = some rest) :
    ∃ front, cs = front ++ rest := by
  induction name generalizing cs with
  | nil =>
    rw [takeName?, Option.some.injEq] at h
    exact ⟨[], h⟩
  | cons n name ih =>
    cases cs with
    | nil => cases h
    | cons c cs =>
      rw [takeName?] at h
      split at h
      · obtain ⟨front, rfl⟩ := ih h
        exact ⟨c :: front, rfl⟩
      · cases h

theorem takeName?_append {written : List Char} (h : written.map foldCase = name.map foldCase)
    (rest : List Char) : takeName? name (written ++ rest) = some rest := by
  induction name generalizing written with
  | nil =>
    rw [List.map_nil, List.map_eq_nil_iff] at h
    rw [h]
    rfl
  | cons n name ih =>
    obtain ⟨c, written, rfl, hc, hrest⟩ := List.map_eq_cons_iff.1 h
    simp [takeName?, hc, ih hrest]

theorem exists_append_dropQuote (cs : List Char) : ∃ front, cs = front ++ dropQuote cs := by
  unfold dropQuote
  split
  · rename_i c rest
    split
    · exact ⟨[c], rfl⟩
    · exact ⟨[], rfl⟩
  · exact ⟨[], rfl⟩

/-! ## What is not found -/

theorem contains_of_incrementFollows {before : Option Char} (front : List Char)
    (h : incrementFollows cs = true) :
    contains ["autoincrement"] before (front ++ cs) = true := by
  cases cs with
  | nil => cases h
  | cons c cs =>
    rw [incrementFollows, Bool.and_eq_true] at h
    refine contains_append_left front ?_
    have hcut := List.takeWhile_append_dropWhile (p := (· != ',')) (l := cs)
    rw [← hcut]
    refine contains_append (by decide) h.2 ?_
    cases hbehind : cs.dropWhile (· != ',') with
    | nil => rfl
    | cons d behind =>
      obtain rfl : d = ',' := by
        have := List.head?_dropWhile_not (· != ',') cs
        simpa [hbehind] using this
      rfl

/-- **Nothing is found where the keyword is no word of the text.** -/
theorem contains_of_declaresIncrement (before : Option Char) {atBoundary : Bool}
    (h : declaresIncrement name atBoundary cs = true) :
    contains ["autoincrement"] before cs = true := by
  induction cs generalizing before atBoundary with
  | nil => cases h
  | cons c cs ih =>
    rw [declaresIncrement, Bool.or_eq_true, Bool.and_eq_true] at h
    rcases h with ⟨-, h⟩ | h
    · rw [beginsIncremented] at h
      cases htake : takeName? name (c :: cs) with
      | none => rw [htake] at h; cases h
      | some rest =>
        rw [htake] at h
        obtain ⟨front, hfront⟩ := exists_append_of_takeName? htake
        obtain ⟨quote, hquote⟩ := exists_append_dropQuote rest
        rcases Bool.or_eq_true_iff.1 h with h | h
        · rw [hfront, hquote, ← List.append_assoc]
          exact contains_of_incrementFollows _ h
        · rw [hfront]
          exact contains_of_incrementFollows _ h
    · exact contains_cons (ih _ h)

/-! ## What is found -/

/-- Whether a name may begin behind a text. -/
def nameBegins (front : List Char) : Bool :=
  front.getLast?.all fun c => !isNameChar c

theorem nameBegins_append {front more : List Char} (hfront : nameBegins front = true)
    (hmore : nameBegins more = true) : nameBegins (front ++ more) = true := by
  rw [nameBegins, List.getLast?_append]
  cases hlast : more.getLast? with
  | none => exact hfront
  | some c => rwa [nameBegins, hlast] at hmore

theorem declaresIncrement_append {front : List Char} {atBoundary : Bool}
    (h : beginsIncremented name cs = true) (hne : cs ≠ [])
    (hbegins : front.getLast?.elim atBoundary (fun c => !isNameChar c) = true) :
    declaresIncrement name atBoundary (front ++ cs) = true := by
  induction front generalizing atBoundary with
  | nil =>
    obtain ⟨c, cs, rfl⟩ := List.exists_cons_of_ne_nil hne
    have hb : atBoundary = true := hbegins
    rw [List.nil_append, declaresIncrement, hb, h]
    rfl
  | cons c front ih =>
    rw [List.cons_append, declaresIncrement]
    refine Bool.or_eq_true_iff.2 (.inr (ih ?_))
    cases front with
    | nil => exact hbegins
    | cons d front =>
      rw [List.getLast?_cons_cons] at hbegins
      rw [List.getLast?_cons] at hbegins ⊢
      exact hbegins

/-- Whether a text is what stands between a name and the keyword: it begins with white space, no
comma is in it, and no word ends with it. -/
def separates (between : List Char) : Bool :=
  between.head?.any isBlank && ',' ∉ between && !between.getLast?.any isWordChar

theorem incrementFollows_of_separates {between word behind : List Char}
    (h : separates between = true) (hword : word.map foldCase = "autoincrement".toList)
    (hcomma : ',' ∉ word) (hends : wordEnds behind = true) :
    incrementFollows (between ++ (word ++ behind)) = true := by
  simp only [separates, Bool.and_eq_true, decide_eq_true_eq, Bool.not_eq_true'] at h
  obtain ⟨⟨hblank, hfree⟩, hlast⟩ := h
  cases between with
  | nil => cases hblank
  | cons c between =>
    have hne : word ≠ [] := by
      rintro rfl
      simp at hword
    have hall : ∀ d ∈ between ++ word, (d != ',') = true := by
      intro d hd
      rw [bne_iff_ne]
      rintro rfl
      rcases List.mem_append.1 hd with hd | hd
      · exact hfree (List.mem_cons_of_mem c hd)
      · exact hcomma hd
    have hcut : wordEnds (behind.takeWhile (· != ',')) = true := by
      cases behind with
      | nil => rfl
      | cons d behind =>
        rw [List.takeWhile_cons]
        split
        · exact hends
        · rfl
    have hcontains : contains ["autoincrement"] (some c)
        ((between ++ (word ++ behind)).takeWhile (· != ',')) = true := by
      rw [← List.append_assoc, List.takeWhile_append_of_pos hall, List.append_assoc]
      refine contains_of_beginsWith (beginsWith_word hword hcut) (by simp [hne]) ?_
      rw [wordBegins, Bool.not_eq_true']
      rw [List.getLast?_cons] at hlast
      cases hb : between.getLast? with
      | none => simpa [hb] using hlast
      | some d => simpa [hb] using hlast
    rw [List.cons_append, incrementFollows, hcontains, Bool.and_true]
    simpa using hblank

/-- The quotes that may stand around a name, none included. -/
def nameQuotes : List (List Char × List Char) :=
  [([], []), (['"'], ['"']), (['`'], ['`']), (['['], [']'])]

/-- **The keyword is found behind a name.** -/
theorem declaresIncrement_of_marked {front written between word behind : List Char}
    {quotes : List Char × List Char} (hquotes : quotes ∈ nameQuotes)
    (hname : written.map foldCase = name.map foldCase) (hbegins : nameBegins front = true)
    (hbetween : separates between = true) (hword : word.map foldCase = "autoincrement".toList)
    (hcomma : ',' ∉ word) (hends : wordEnds behind = true) :
    declaresIncrement name true (front ++ (quotes.1 ++ (written ++ (quotes.2 ++
      (between ++ (word ++ behind)))))) = true := by
  have hfollows := incrementFollows_of_separates hbetween hword hcomma hends
  generalize between ++ (word ++ behind) = rest at hfollows ⊢
  have hfound : ∀ closing : List Char, dropQuote (closing ++ rest) = rest ∨ closing = [] →
      beginsIncremented name (written ++ (closing ++ rest)) = true := by
    intro closing hclosing
    rw [beginsIncremented, takeName?_append hname]
    rcases hclosing with h | rfl
    · simp only [h, hfollows, Bool.true_or]
    · simp only [List.nil_append, hfollows, Bool.or_true]
  have hne : rest ≠ [] := by
    rintro rfl
    cases hfollows
  have hfront : (front ++ quotes.1).getLast?.elim true (fun c => !isNameChar c) = true ∧
      (dropQuote (quotes.2 ++ rest) = rest ∨ quotes.2 = []) := by
    simp only [nameQuotes, List.mem_cons, List.not_mem_nil, or_false] at hquotes
    rcases hquotes with rfl | rfl | rfl | rfl
    · refine ⟨?_, .inr rfl⟩
      rw [nameBegins] at hbegins
      rw [List.append_nil]
      cases h : front.getLast? with
      | none => rfl
      | some c => simpa [h] using hbegins
    all_goals
      refine ⟨?_, .inl rfl⟩
      rw [List.getLast?_concat]
      decide
  rw [← List.append_assoc]
  exact declaresIncrement_append (hfound _ hfront.2) (by simp [hne]) hfront.1

end Tablewright.Catalog
