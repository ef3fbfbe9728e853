import Tablewright.Proofs.Naming.Identifiers

/-!
# Identifiers of ASCII names

The words of an ASCII name hold lower-case letters and digits only (`isWordChar_of_mem_words`), so
its identifiers are ASCII as well, and putting a snake-case name in upper case loses nothing
(`screamingSnakeCase_inj`). A name without letters and digits has no words (`words_eq_nil_iff`), and
just then its snake-case name is the lone underscore (`snakeCase_eq_underscore_iff`).
-/

namespace Tablewright.Naming

open Text

/-- A name of ASCII characters. -/
def IsAsciiName (name : String) : Prop :=
  ∀ c ∈ name.toList, isAscii c = true

/-- A name that holds a letter or a digit. -/
def HasWord (name : String) : Prop :=
  ∃ c ∈ name.toList, c.isAlphanum = true

instance (name : String) : Decidable (IsAsciiName name) :=
  decidable_of_iff (name.toList.all isAscii = true) List.all_eq_true

instance (name : String) : Decidable (HasWord name) :=
  decidable_of_iff (name.toList.any Char.isAlphanum = true) List.any_eq_true

theorem isAlphanumeric_ascii {c : Char} (h : isAscii c = true) :
    isAlphanumeric c = c.isAlphanum := by
  rw [isAlphanumeric, isAlphabetic_ascii h, isNumeric_ascii h, Char.isAlphanum]

/-! ## Words -/

theorem wordsFrom_eq_nil_iff (previous : Char) (word name : List Char) :
    wordsFrom previous word name = [] ↔ word = [] ∧ ∀ c ∈ name, isAlphanumeric c = false := by
  have hflush : ∀ (word : List Char) (rest : List (List Char)),
      flush word rest = [] ↔ word = [] ∧ rest = [] := by
    intro word rest
    cases word <;> simp [flush]
  induction name generalizing previous word with
  | nil => simp [wordsFrom, hflush]
  | cons c rest ih =>
    rw [wordsFrom, List.forall_mem_cons]
    split
    · rename_i hc
      have hnot : isAlphanumeric c = false := by simpa using hc
      simp [hflush, ih c, hnot]
    · rename_i hc
      have hne : word ++ lowercase c ≠ [] :=
        List.append_ne_nil_of_right_ne_nil _ (lowercase_ne_nil c)
      simp only [Bool.not_eq_true, Bool.not_eq_false'] at hc
      split
      · simp [hc]
      · simp [ih, hne, hc]

/-- A name without letters and digits has no words. -/
theorem words_eq_nil_iff {name : List Char} :
    words name = [] ↔ ∀ c ∈ name, isAlphanumeric c = false := by
  rw [words, wordsFrom_eq_nil_iff]
  exact and_iff_right rfl

theorem words_ne_nil_iff {name : String} (h : IsAsciiName name) :
    words name.toList ≠ [] ↔ HasWord name := by
  rw [Ne, words_eq_nil_iff, HasWord]
  simp only [not_forall, Bool.not_eq_false, exists_prop]
  exact exists_congr fun c => and_congr_right fun hc => by rw [isAlphanumeric_ascii (h c hc)]

/-- Lower-case letters and digits. -/
def isWordChar (c : Char) : Bool :=
  c.isLower || c.isDigit

theorem isWordChar_toLower : ∀ n : Fin 128, isAlphanumeric (Char.ofNat n) = true →
    isWordChar (Char.ofNat n).toLower = true := by
  decide

theorem isWordChar_of_mem_words {name : String} (h : IsAsciiName name) :
    ∀ w ∈ words name.toList, w ≠ [] ∧ ∀ c ∈ w, isWordChar c = true := by
  refine forall_mem_words fun c hc halpha d hd => ?_
  rw [lowercase, if_pos (h c hc), List.mem_singleton] at hd
  obtain ⟨n, rfl⟩ := exists_fin_of_isAscii (h c hc)
  rw [hd]
  exact isWordChar_toLower n halpha

/-- The characters of snake-case names. -/
def isSnakeChar (c : Char) : Bool :=
  isWordChar c || c == '_'

theorem isSnakeChar_of_isWordChar {c : Char} (h : isWordChar c = true) : isSnakeChar c = true := by
  rw [isSnakeChar, h]
  rfl

theorem isAscii_of_le {c : Char} (h : c.val ≤ 'z'.val) : isAscii c = true := by
  have hz : 'z'.val.toNat = 122 := rfl
  have hlimit : (0x80 : UInt32).toNat = 128 := rfl
  rw [UInt32.le_iff_toNat_le] at h
  rw [isAscii, decide_eq_true_eq, UInt32.lt_iff_toNat_lt]
  omega

/-- The letters and digits are the capitals and the characters of words. -/
theorem isAlphanum_eq (c : Char) : c.isAlphanum = (c.isUpper || isWordChar c) :=
  Bool.or_assoc c.isUpper c.isLower c.isDigit

theorem isAscii_of_isAlphanum {c : Char} (h : c.isAlphanum = true) : isAscii c = true := by
  rw [isAlphanum_eq, Bool.or_eq_true, isWordChar, Bool.or_eq_true] at h
  rcases h with hupper | hlower | hdigit
  · obtain ⟨-, hle⟩ := of_decide_eq_true hupper
    exact isAscii_of_le (UInt32.le_trans hle (by decide))
  · obtain ⟨-, hle⟩ := Bool.and_eq_true_iff.1 hlower
    exact isAscii_of_le (of_decide_eq_true hle)
  · obtain ⟨-, hle⟩ := Bool.and_eq_true_iff.1 hdigit
    exact isAscii_of_le (UInt32.le_trans (of_decide_eq_true hle) (by decide))

theorem isAscii_of_isSnakeChar {c : Char} (h : isSnakeChar c = true) : isAscii c = true := by
  rw [isSnakeChar, Bool.or_eq_true, beq_iff_eq] at h
  rcases h with hchar | rfl
  · exact isAscii_of_isAlphanum (by rw [isAlphanum_eq, hchar, Bool.or_true])
  · decide

theorem isSnakeChar_of_mem {name : String} (h : IsAsciiName name) :
    ∀ c ∈ snakeChars name.toList, isSnakeChar c = true := by
  refine forall_mem_guardLeadingDigit (by decide) fun c hc => ?_
  rcases mem_intercalate hc with rfl | ⟨w, hw, hmem⟩
  · decide
  · exact isSnakeChar_of_isWordChar ((isWordChar_of_mem_words h w hw).2 c hmem)

/-! ## The lone underscore -/

theorem mem_intercalate_of_mem {separator : List Char} {ws : List (List Char)} {w : List Char}
    {c : Char} (hw : w ∈ ws) (hc : c ∈ w) : c ∈ separator.intercalate ws := by
  induction ws with
  | nil => cases hw
  | cons v rest ih =>
    cases rest with
    | nil => simpa [List.mem_singleton.1 hw] using hc
    | cons u rest =>
      rw [List.intercalate_cons_cons, List.mem_append, List.mem_append]
      rcases List.mem_cons.1 hw with rfl | hw
      · exact .inl (.inl hc)
      · exact .inr (ih hw)

/-- **The snake-case name is the lone underscore exactly if there are no words.** -/
theorem snakeChars_eq_underscore_iff {name : List Char} :
    snakeChars name = ['_'] ↔ words name = [] := by
  constructor
  · intro h
    by_contra hne
    obtain ⟨w, rest, hwords⟩ := List.exists_cons_of_ne_nil hne
    have hw : w ∈ words name := hwords ▸ List.mem_cons_self
    obtain ⟨hword, hplain⟩ := isPlainChar_of_mem_words name w hw
    obtain ⟨c, tail, rfl⟩ := List.exists_cons_of_ne_nil hword
    have hmem : c ∈ snakeChars name := by
      have hjoined : c ∈ ['_'].intercalate (words name) :=
        mem_intercalate_of_mem hw List.mem_cons_self
      rw [snakeChars]
      rcases guardLeadingDigit_cases (['_'].intercalate (words name)) with hguard | hguard <;>
        simp [hguard, hjoined]
    rw [h, List.mem_singleton] at hmem
    exact (hplain c List.mem_cons_self).1 hmem
  · intro h
    rw [snakeChars, h]
    rfl

theorem snakeCase_eq_underscore_iff {name : String} (h : IsAsciiName name) :
    snakeCase name = "_" ↔ ¬HasWord name := by
  rw [← words_ne_nil_iff h, not_not, ← snakeChars_eq_underscore_iff, ← toList_snakeCase,
    ← String.toList_inj]
  exact Iff.rfl

theorem fieldIdentifier_eq_underscore_iff {name : String} (h : IsAsciiName name) :
    fieldIdentifier name = "_" ↔ ¬HasWord name := by
  rw [← snakeCase_eq_underscore_iff h, fieldIdentifier]
  have hunderscore : escapeKeyword "_" = "_" := by decide
  constructor
  · intro heq
    rcases escapeKeyword_cases (snakeCase name) with ⟨hkeyword, hescaped⟩ | hescaped | hescaped
    · have hlength : ∀ k ∈ pathKeywords, k ++ "_" ≠ "_" := by decide
      exact absurd (hescaped.symm.trans heq) (hlength _ hkeyword)
    · have hlist := congrArg (fun s => s.toList.head?) (hescaped.symm.trans heq)
      simp at hlist
    · exact hescaped.symm.trans heq
  · intro heq
    rw [heq, hunderscore]

/-! ## Upper case -/

theorem toLower_toUpper : ∀ n : Fin 128, isSnakeChar (Char.ofNat n) = true →
    (Char.ofNat n).toUpper.toLower = Char.ofNat n := by
  decide

theorem screamingChars_ascii {name : String} (h : IsAsciiName name) :
    screamingChars name.toList = (snakeChars name.toList).map Char.toUpper := by
  rw [screamingChars, List.map_eq_flatMap]
  refine List.flatMap_congr fun c hc => ?_
  rw [uppercase, if_pos (isAscii_of_isSnakeChar (isSnakeChar_of_mem h c hc))]

/-- What was in lower case can be put back. -/
theorem map_toLower_screamingChars {name : String} (h : IsAsciiName name) :
    (screamingChars name.toList).map Char.toLower = snakeChars name.toList := by
  rw [screamingChars_ascii h, List.map_map]
  refine (List.map_congr_left fun c hc => ?_).trans (List.map_id _)
  have hc := isSnakeChar_of_mem h c hc
  obtain ⟨n, rfl⟩ := exists_fin_of_isAscii (isAscii_of_isSnakeChar hc)
  exact toLower_toUpper n hc

/-- **Upper case keeps snake-case names of ASCII names apart.** -/
theorem screamingSnakeCase_inj {a b : String} (ha : IsAsciiName a) (hb : IsAsciiName b)
    (h : screamingSnakeCase a = screamingSnakeCase b) : snakeCase a = snakeCase b := by
  have hchars : screamingChars a.toList = screamingChars b.toList := by
    rw [← String.toList_inj, screamingSnakeCase, screamingSnakeCase, String.toList_ofList,
      String.toList_ofList] at h
    exact h
  rw [snakeCase, snakeCase, ← map_toLower_screamingChars ha, ← map_toLower_screamingChars hb, hchars]

theorem screamingSnakeCase_eq_underscore_iff {name : String} (h : IsAsciiName name) :
    screamingSnakeCase name = "_" ↔ ¬HasWord name := by
  rw [← snakeCase_eq_underscore_iff h, ← String.toList_inj, ← String.toList_inj, toList_snakeCase,
    screamingSnakeCase, String.toList_ofList]
  constructor
  · intro heq
    rw [← map_toLower_screamingChars h, heq]
    decide
  · intro heq
    rw [screamingChars_ascii h, heq]
    decide

end Tablewright.Naming
