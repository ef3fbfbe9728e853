import Tablewright.Outline.Line
import Tablewright.Proofs.Text.Lines

/-!
# Phrases in a text

A phrase that a text begins with is still there if something is put behind the text
(`beginsWith_append_return`). Where a name and a space begin the text, a keyword ends within the
name (`exists_append_of_keyword?`). So a phrase of one keyword begins the text only if the keyword is
the name (`map_foldCase_of_beginsWith`), and a longer one only if it goes on behind the space
(`keywords?_behind_name`). A text contains a phrase if the phrase begins in one of its parts
(`contains_append_eq`). Only the characters of words fold to plain letters
(`isWordChar_of_foldCase`), so a keyword in a text stands in one of its lines
(`exists_line_of_contains`).
-/

namespace Tablewright.Outline

open Text

/-! ## White space and word characters -/

/-- The code points of a table of ranges. -/
def codePoints (table : List (Nat × Nat)) : List Nat :=
  table.flatMap fun r => List.range' r.1 (r.2 + 1 - r.1)

theorem mem_codePoints {table : List (Nat × Nat)} {n : Nat} (h : inRanges table n = true) :
    n ∈ codePoints table := by
  obtain ⟨r, hr, hn⟩ := List.any_eq_true.1 h
  rw [Bool.and_eq_true, decide_eq_true_eq, decide_eq_true_eq] at hn
  refine List.mem_flatMap.2 ⟨r, hr, List.mem_range'_1.2 ⟨hn.1, ?_⟩⟩
  omega

theorem not_isWordChar_codePoints :
    ∀ n ∈ codePoints blankRanges, isWordChar (Char.ofNat n) = false := by
  decide +kernel

/-- White space separates words. -/
theorem not_isWordChar_of_isBlank {c : Char} (h : isBlank c = true) : isWordChar c = false := by
  have hc := not_isWordChar_codePoints c.toNat (mem_codePoints h)
  rwa [Char.ofNat_toNat] at hc

theorem wordEnds_of_blanks? {cs rest : List Char} (h : blanks? cs = some rest) :
    wordEnds cs = true := by
  cases cs with
  | nil => cases h
  | cons c cs =>
    rw [blanks?] at h
    split at h
    · rename_i hblank
      simp [wordEnds, not_isWordChar_of_isBlank hblank]
    · cases h

/-! ## Characters of names -/

theorem toNat_lt_of_isPlainNameChar {c : Char} (h : isPlainNameChar c = true) : c.toNat < 128 := by
  have hbound {high : UInt32} (hc : c.val ≤ high) (hhigh : high.toNat < 128) : c.toNat < 128 :=
    Nat.lt_of_le_of_lt (UInt32.le_iff_toNat_le.1 hc) hhigh
  rw [isPlainNameChar, Bool.or_eq_true, beq_iff_eq] at h
  rcases h with h | rfl
  · rcases Bool.or_eq_true_iff.1 h with h | hdigit
    · rcases Bool.or_eq_true_iff.1 h with hupper | hlower
      · exact hbound (of_decide_eq_true hupper : 'A'.val ≤ c.val ∧ c.val ≤ 'Z'.val).2 (by decide)
      · exact hbound (of_decide_eq_true (Bool.and_eq_true_iff.1 hlower).2) (by decide)
    · exact hbound (of_decide_eq_true (Bool.and_eq_true_iff.1 hdigit).2) (by decide)
  · decide

theorem isPlainNameChar_ascii : ∀ n : Fin 128, isPlainNameChar (Char.ofNat n) = true →
    foldCase (Char.ofNat n) = (Char.ofNat n).toLower ∧ isNameChar (Char.ofNat n) = true ∧
      isWordChar (Char.ofNat n) = true ∧ isBlank (Char.ofNat n) = false := by
  decide

/-- A letter, digit or underscore of ASCII is one for every other purpose. -/
theorem facts_of_isPlainNameChar {c : Char} (h : isPlainNameChar c = true) :
    foldCase c = c.toLower ∧ isNameChar c = true ∧ isWordChar c = true ∧ isBlank c = false := by
  have hc := isPlainNameChar_ascii ⟨c.toNat, toNat_lt_of_isPlainNameChar h⟩
  rw [Char.ofNat_toNat] at hc
  exact hc h

theorem isPlainNameChar_ascii_toLower : ∀ n : Fin 128,
    isPlainNameChar (Char.ofNat n).toLower = true → isPlainNameChar (Char.ofNat n) = true := by
  decide

theorem isPlainNameChar_of_toLower {c : Char} (h : isPlainNameChar c.toLower = true) :
    isPlainNameChar c = true := by
  by_cases hc : c.toNat < 128
  · have hascii := isPlainNameChar_ascii_toLower ⟨c.toNat, hc⟩
    rw [Char.ofNat_toNat] at hascii
    exact hascii h
  · have hlower : c.toLower = c := by
      refine dif_neg fun hupper => hc ?_
      have : c.toNat ≤ 90 := UInt32.le_iff_toNat_le.1 hupper.2
      omega
    rwa [hlower] at h

/-! ## Phrases with something behind them -/

variable {cs rest : List Char}

theorem keyword?_append {k : List Char} (h : keyword? k cs = some rest) (more : List Char) :
    keyword? k (cs ++ more) = some (rest ++ more) := by
  induction k generalizing cs with
  | nil =>
    rw [keyword?, Option.some.injEq] at h
    rw [h]
    rfl
  | cons k ks ih =>
    cases cs with
    | nil => cases h
    | cons c cs =>
      rw [keyword?] at h
      rw [List.cons_append, keyword?]
      split at h
      · rename_i hk
        rw [if_pos hk, ih h]
      · cases h

theorem keyword?_append_self {word : List Char} (rest : List Char) :
    keyword? (word.map foldCase) (word ++ rest) = some rest := by
  induction word with
  | nil => rfl
  | cons c word ih => simp [keyword?, ih]

theorem blanks?_append (h : blanks? cs = some rest) (hne : rest ≠ []) (more : List Char) :
    blanks? (cs ++ more) = some (rest ++ more) := by
  cases cs with
  | nil => cases h
  | cons c cs =>
    rw [blanks?] at h
    rw [List.cons_append, blanks?]
    split at h
    · rename_i hblank
      rw [Option.some.injEq] at h
      rw [if_pos hblank, dropBlank, List.dropWhile_append]
      rw [dropBlank] at h
      simp [h, hne]
    · cases h

theorem ne_nil_of_keywords? {ks : List String} (hks : ∀ k ∈ ks, k ≠ "") (hne : ks ≠ [])
    (h : keywords? ks cs = some rest) : cs ≠ [] := by
  rintro rfl
  have hkeyword : ∀ k ∈ ks, keyword? k.toList [] = none := by
    intro k hk
    obtain ⟨c, chars, heq⟩ := List.exists_cons_of_ne_nil (by simpa using hks k hk : k.toList ≠ [])
    rw [heq]
    rfl
  match ks, hne with
  | [k], _ => simp [keywords?, hkeyword k] at h
  | k :: k' :: ks, _ => simp [keywords?, hkeyword k] at h

theorem keywords?_append {ks : List String} (hks : ∀ k ∈ ks, k ≠ "")
    (h : keywords? ks cs = some rest) (more : List Char) :
    keywords? ks (cs ++ more) = some (rest ++ more) := by
  induction ks generalizing cs with
  | nil =>
    rw [keywords?, Option.some.injEq] at h
    rw [h]
    rfl
  | cons k ks ih =>
    cases ks with
    | nil => exact keyword?_append h more
    | cons k' ks =>
      have hks' : ∀ k ∈ k' :: ks, k ≠ "" := fun k hk => hks k (List.mem_cons_of_mem _ hk)
      simp only [keywords?, Option.bind_eq_bind, Option.bind_eq_some_iff] at h ⊢
      obtain ⟨afterKeyword, hkeyword, afterBlanks, hblanks, hrest⟩ := h
      have hne := ne_nil_of_keywords? hks' (List.cons_ne_nil k' ks) hrest
      exact ⟨_, keyword?_append hkeyword more, _, blanks?_append hblanks hne more, ih hks' hrest⟩

theorem beginsWith_iff {ks : List String} :
    beginsWith ks cs = true ↔ ∃ rest, keywords? ks cs = some rest ∧ wordEnds rest = true :=
  Option.any_eq_true ..

/-- A phrase is still there if a carriage return is put behind the text. -/
theorem beginsWith_append_return {ks : List String} (hks : ∀ k ∈ ks, k ≠ "")
    (h : beginsWith ks cs = true) : beginsWith ks (cs ++ ['\r']) = true := by
  obtain ⟨rest, hrest, hends⟩ := beginsWith_iff.1 h
  refine beginsWith_iff.2 ⟨rest ++ ['\r'], keywords?_append hks hrest _, ?_⟩
  cases rest with
  | nil => rfl
  | cons c rest => exact hends

/-! ## Phrases where a name stands -/

variable {name k : List Char}

/-- A keyword ends within a name that is followed by something else than its letters. -/
theorem exists_append_of_keyword? {behind : List Char} (hk : ∀ c ∈ behind.head?, foldCase c ∉ k)
    (h : keyword? k (name ++ behind) = some rest) :
    ∃ front back, name = front ++ back ∧ front.map foldCase = k ∧ rest = back ++ behind := by
  induction k generalizing name with
  | nil =>
    rw [keyword?, Option.some.injEq] at h
    exact ⟨[], name, rfl, rfl, h.symm⟩
  | cons k ks ih =>
    cases name with
    | nil =>
      cases behind with
      | nil => cases h
      | cons c behind =>
        rw [List.nil_append, keyword?] at h
        split at h
        · rename_i hc
          exact absurd (by simp [beq_iff_eq.1 hc]) (hk c rfl)
        · cases h
    | cons c name =>
      rw [List.cons_append, keyword?] at h
      split at h
      · rename_i hc
        obtain ⟨front, back, rfl, rfl, hrest⟩ :=
          ih (fun d hd hmem => hk d hd (List.mem_cons_of_mem _ hmem)) h
        exact ⟨c :: front, back, rfl, by rw [List.map_cons, beq_iff_eq.1 hc], hrest⟩
      · cases h

/-- A keyword behind which a word ends is the whole name. -/
theorem eq_of_keyword? (hname : ∀ c ∈ name, isPlainNameChar c = true) (hk : ' ' ∉ k)
    (h : keyword? k (name ++ ' ' :: cs) = some rest) (hends : wordEnds rest = true) :
    name.map foldCase = k ∧ rest = ' ' :: cs := by
  have hfold : ∀ c ∈ (' ' :: cs).head?, foldCase c ∉ k := by
    rintro c ⟨⟩
    rwa [show foldCase ' ' = ' ' by decide]
  obtain ⟨front, back, rfl, rfl, rfl⟩ := exists_append_of_keyword? hfold h
  cases back with
  | nil => exact ⟨by rw [List.append_nil], rfl⟩
  | cons c back =>
    have hword := (facts_of_isPlainNameChar (hname c (by simp))).2.2.1
    simp [wordEnds, hword] at hends

/-- A phrase of one keyword begins the text only if the keyword is the name. -/
theorem map_foldCase_of_beginsWith {k : String} (hname : ∀ c ∈ name, isPlainNameChar c = true)
    (hk : ' ' ∉ k.toList) (h : beginsWith [k] (name ++ ' ' :: cs) = true) :
    name.map foldCase = k.toList := by
  obtain ⟨rest, hrest, hends⟩ := beginsWith_iff.1 h
  exact (eq_of_keyword? hname hk hrest hends).1

/-- A longer phrase goes on behind the space. -/
theorem keywords?_behind_name {k k' : String} {ks : List String}
    (hname : ∀ c ∈ name, isPlainNameChar c = true) (hk : ' ' ∉ k.toList)
    (h : keywords? (k :: k' :: ks) (name ++ ' ' :: cs) = some rest) :
    keywords? (k' :: ks) (dropBlank cs) = some rest := by
  simp only [keywords?, Option.bind_eq_bind, Option.bind_eq_some_iff] at h
  obtain ⟨afterKeyword, hkeyword, afterBlanks, hblanks, hrest⟩ := h
  obtain ⟨-, rfl⟩ := eq_of_keyword? hname hk hkeyword (wordEnds_of_blanks? hblanks)
  cases hblanks
  exact hrest

/-! ## Characters that fold to letters -/

theorem mem_foldShifts_small : ∀ shift ∈ foldShifts, shift.2.2.2 < 128 →
    shift = (0x17F, 0x17F, 1, 0x73) ∨ shift = (0x212A, 0x212A, 1, 0x6B) := by
  decide +kernel

/-- A character that folds to a letter, digit or underscore of ASCII belongs to words. -/
theorem isWordChar_of_foldCase {c : Char} (h : isPlainNameChar (foldCase c) = true) :
    isWordChar c = true := by
  by_cases hc : isAscii c = true
  · rw [foldCase, if_pos hc] at h
    exact (facts_of_isPlainNameChar (isPlainNameChar_of_toLower h)).2.2.1
  · have hlt := toNat_lt_of_isPlainNameChar h
    rw [foldCase, if_neg hc] at h hlt
    have hle : 128 ≤ c.toNat := by
      rw [isAscii, decide_eq_true_eq, UInt32.lt_iff_toNat_lt, Nat.not_lt] at hc
      exact hc
    have hshifted : shifted foldShifts c.toNat < 128 := by
      by_cases hvalid : (shifted foldShifts c.toNat).isValidChar
      · rwa [Char.ofNat, dif_pos hvalid] at hlt
      · rw [Char.ofNat, dif_neg hvalid] at h
        cases h
    rw [shifted] at hshifted
    split at hshifted
    · rename_i first last step image hfind
      have hcovers := List.find?_some hfind
      simp only [Shift.covers, Bool.and_eq_true, decide_eq_true_eq] at hcovers
      have hword : ∀ n : Nat, c.toNat = n → isWordChar (Char.ofNat n) = true →
          isWordChar c = true := by
        rintro n rfl hn
        rwa [Char.ofNat_toNat] at hn
      rcases mem_foldShifts_small _ (List.mem_of_find?_eq_some hfind) (by simp; omega) with h | h
      · cases h
        exact hword 0x17F (by omega) (by decide +kernel)
      · cases h
        exact hword 0x212A (by omega) (by decide +kernel)
    · omega

/-! ## Places of a phrase -/

section Places

variable {ks : List String} {before : Option Char}

/-- Whether a phrase begins in the first part of a text. -/
def beginsIn (ks : List String) (before : Option Char) : List Char → List Char → Bool
  | [], _ => false
  | c :: part, behind =>
    (wordBegins before && beginsWith ks (c :: (part ++ behind))) || beginsIn ks (some c) part behind

/-- A text contains what begins in its parts. -/
theorem contains_append_eq (part behind : List Char) : contains ks before (part ++ behind) =
    (beginsIn ks before part behind || contains ks (part.getLast?.or before) behind) := by
  induction part generalizing before with
  | nil => rfl
  | cons c part ih =>
    rw [List.cons_append, contains, ih, beginsIn, Bool.or_assoc]
    congr 2
    rw [List.getLast?_cons]
    cases part.getLast? <;> rfl

/-- What is in front of a text only matters if a word goes on. -/
theorem contains_of_wordEnds {k : String} {c d : Char} {chars cs : List Char}
    (hk : k.toList = d :: chars) (hd : isPlainNameChar d = true) (hcs : wordEnds cs = true) :
    contains (k :: ks) (some c) cs = contains (k :: ks) none cs := by
  cases cs with
  | nil => rfl
  | cons a cs =>
    have hnone : beginsWith (k :: ks) (a :: cs) = false := by
      have hkeyword : keyword? k.toList (a :: cs) = none := by
        rw [hk, keyword?, if_neg]
        rw [beq_iff_eq]
        rintro rfl
        rw [wordEnds, List.head?_cons, Option.any_some, isWordChar_of_foldCase hd] at hcs
        cases hcs
      rw [beginsWith]
      cases ks <;> simp [keywords?, hkeyword]
    rw [contains, contains, hnone, Bool.and_false, Bool.and_false]

end Places

/-! ## A keyword in the lines of a text -/

section LinesOfText

variable {k : String} {before : Option Char} {part behind cs : List Char}

/-- What begins in a part of a text behind which no word goes on is contained in the part. -/
theorem contains_of_beginsIn (hk : ∀ c ∈ k.toList, isPlainNameChar c = true)
    (hbehind : wordEnds behind = true) (h : beginsIn [k] before part behind = true) :
    contains [k] before part = true := by
  have hfold : ∀ c ∈ behind.head?, foldCase c ∉ k.toList := by
    intro c hc hmem
    rw [wordEnds, hc, Option.any_some, isWordChar_of_foldCase (hk _ hmem)] at hbehind
    cases hbehind
  induction part generalizing before with
  | nil => cases h
  | cons c part ih =>
    rw [beginsIn, Bool.or_eq_true, Bool.and_eq_true] at h
    rw [contains, Bool.or_eq_true, Bool.and_eq_true]
    refine h.imp (fun ⟨hbefore, hbegins⟩ => ⟨hbefore, ?_⟩) ih
    obtain ⟨rest, hrest, hends⟩ := beginsWith_iff.1 hbegins
    rw [keywords?, ← List.cons_append] at hrest
    obtain ⟨front, back, heq, hfront, rfl⟩ := exists_append_of_keyword? hfold hrest
    refine beginsWith_iff.2 ⟨back, ?_, ?_⟩
    · rw [keywords?, heq, ← hfront, keyword?_append_self]
    · cases back with
      | nil => rfl
      | cons d back => exact hends

/-- Nothing begins where no word stands. -/
theorem beginsIn_eq_false (hk : ∀ c ∈ k.toList, isPlainNameChar c = true) (hne : k.toList ≠ [])
    (hpart : ∀ c ∈ part, isWordChar c = false) : beginsIn [k] before part behind = false := by
  induction part generalizing before with
  | nil => rfl
  | cons c part ih =>
    rw [List.forall_mem_cons] at hpart
    have hkeyword : keyword? k.toList (c :: (part ++ behind)) = none := by
      obtain ⟨d, chars, heq⟩ := List.exists_cons_of_ne_nil hne
      rw [heq, keyword?, if_neg]
      rw [beq_iff_eq]
      intro hd
      rw [isWordChar_of_foldCase (hd ▸ hk d (by simp [heq]))] at hpart
      cases hpart.1
    rw [beginsIn, ih hpart.2, beginsWith, keywords?, hkeyword]
    simp

theorem contains_of_none (h : contains [k] before cs = true) : contains [k] none cs = true := by
  cases cs with
  | nil => cases h
  | cons c cs =>
    rw [contains, Bool.or_eq_true, Bool.and_eq_true] at h ⊢
    exact h.imp_left fun ⟨_, hbegins⟩ => ⟨rfl, hbegins⟩

theorem not_isWordChar_ending : ∀ ending ∈ lineEndings, ∀ c ∈ ending, isWordChar c = false := by
  have hblank : ∀ ending ∈ lineEndings, ending.all isBlank = true := by decide
  exact fun ending hending c hc =>
    not_isWordChar_of_isBlank (List.all_eq_true.1 (hblank ending hending) c hc)

theorem wordEnds_ending {ending rest : List Char} (hending : ending ∈ lineEndings)
    (hempty : ending = [] → rest = []) : wordEnds (ending ++ rest) = true := by
  cases ending with
  | nil => rw [hempty rfl]; rfl
  | cons c ending =>
    simp [wordEnds, not_isWordChar_ending _ hending c List.mem_cons_self]

/-- A keyword in a text stands in one of its lines. -/
theorem exists_line_of_contains (hk : ∀ c ∈ k.toList, isPlainNameChar c = true)
    (hne : k.toList ≠ []) (h : contains [k] before cs = true) :
    ∃ line ∈ splitLines cs, contains [k] none line = true := by
  induction hlines : splitLines cs generalizing cs before with
  | nil =>
    cases cs with
    | nil => cases h
    | cons c cs =>
      by_cases hfeed : '\n' ∈ c :: cs
      · obtain ⟨front, rest, heq, hfront⟩ := List.eq_append_cons_of_mem hfeed
        rw [heq, splitLines_append hfront] at hlines
        cases hlines
      · rw [splitLines_of_not_mem hfeed (List.cons_ne_nil c cs)] at hlines
        cases hlines
  | cons line lines ih =>
    obtain ⟨ending, hending, rest, rfl, hrest, hempty⟩ := exists_of_splitLines_cons hlines
    rw [contains_append_eq, contains_append_eq,
      beginsIn_eq_false hk hne (not_isWordChar_ending ending hending), Bool.false_or,
      Bool.or_eq_true] at h
    rcases h with h | h
    · exact ⟨line, List.mem_cons_self,
        contains_of_none (contains_of_beginsIn hk (wordEnds_ending hending hempty) h)⟩
    · obtain ⟨line', hmem, hfound⟩ := ih h hrest
      exact ⟨line', List.mem_cons_of_mem line hmem, hfound⟩

end LinesOfText

end Tablewright.Outline
