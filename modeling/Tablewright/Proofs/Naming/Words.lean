import Mathlib.Data.List.Basic
import Tablewright.Naming.Identifier

/-!
# Characters of words and of snake-case names

The words of a name are not empty, and what holds of the lower-case mappings of all letters and
digits holds of their characters (`forall_mem_words`). So a snake-case name holds no hash
(`hash_not_mem_snakeChars`) and ends in an underscore only if it is one
(`eq_nil_of_snakeChars_eq`), which makes the escaping of keywords injective on such names
(`escapeKeyword_snakeCase_inj`).
-/

namespace Tablewright.Naming

open Text

/-! ## Lower-case mappings -/

/-- Neither the underscore nor the hash, which stand in escaped identifiers beside words. -/
def IsPlainChar (c : Char) : Prop :=
  c ≠ '_' ∧ c ≠ '#'

instance (c : Char) : Decidable (IsPlainChar c) :=
  inferInstanceAs (Decidable (_ ∧ _))

theorem toNat_ofNat (n : Nat) : (Char.ofNat n).toNat = n ∨ (Char.ofNat n).toNat = 0 := by
  by_cases h : n.isValidChar
  · have hchar : Char.ofNat n = Char.ofNatAux n h := dif_pos h
    exact .inl (congrArg Char.toNat hchar)
  · have hchar : Char.ofNat n = '\x00' := dif_neg h
    exact .inr (congrArg Char.toNat hchar)

theorem isPlainChar_ofNat {n : Nat} (h : '_'.toNat < n) : IsPlainChar (Char.ofNat n) := by
  have hne : ∀ c : Char, c.toNat ≤ '_'.toNat → c.toNat ≠ 0 → Char.ofNat n ≠ c := by
    rintro c hle hpos rfl
    rcases toNat_ofNat n with hn | hn <;> omega
  exact ⟨hne _ (by decide) (by decide), hne _ (by decide) (by decide)⟩

theorem underscore_lt_lowercaseShifts : ∀ s ∈ lowercaseShifts, '_'.toNat < s.2.2.2 := by
  decide +kernel

theorem underscore_lt_lowercaseExpansions :
    ∀ e ∈ lowercaseExpansions, ∀ n ∈ e.2, '_'.toNat < n := by
  decide

theorem underscore_lt_shifted {n : Nat} (h : '_'.toNat < n) :
    '_'.toNat < shifted lowercaseShifts n := by
  rw [shifted]
  split
  · rename_i hfind
    exact Nat.lt_of_lt_of_le (underscore_lt_lowercaseShifts _ (List.mem_of_find?_eq_some hfind))
      (Nat.le_add_right _ _)
  · exact h

theorem isPlainChar_of_mem_caseMapping {n : Nat} (h : '_'.toNat < n) {d : Char}
    (hd : d ∈ caseMapping lowercaseShifts lowercaseExpansions n) : IsPlainChar d := by
  rw [caseMapping] at hd
  split at hd
  · rename_i hfind
    obtain ⟨m, hm, rfl⟩ := List.mem_map.1 hd
    exact isPlainChar_ofNat
      (underscore_lt_lowercaseExpansions _ (List.mem_of_find?_eq_some hfind) m hm)
  · rw [List.mem_singleton.1 hd]
    exact isPlainChar_ofNat (underscore_lt_shifted h)

theorem isPlainChar_toLower : ∀ n : Fin 128, isAlphanumeric (Char.ofNat n) = true →
    IsPlainChar (Char.ofNat n).toLower := by
  decide

/-- **The lower-case mapping of a letter or digit holds no mark.** -/
theorem isPlainChar_of_mem_lowercase {c d : Char} (hc : isAlphanumeric c = true)
    (hd : d ∈ lowercase c) : IsPlainChar d := by
  rw [lowercase] at hd
  split at hd
  · rename_i hascii
    have hlt : c.toNat < 128 := of_decide_eq_true hascii
    rw [List.mem_singleton.1 hd]
    have := isPlainChar_toLower ⟨c.toNat, hlt⟩
    rw [Char.ofNat_toNat] at this
    exact this hc
  · rename_i hascii
    have hle : ¬c.toNat < 128 := fun h => hascii (decide_eq_true h)
    exact isPlainChar_of_mem_caseMapping (Nat.lt_of_lt_of_le (by decide) (Nat.le_of_not_lt hle)) hd

theorem lowercaseExpansions_ne_nil : ∀ e ∈ lowercaseExpansions, e.2 ≠ [] := by
  decide

theorem lowercase_ne_nil (c : Char) : lowercase c ≠ [] := by
  rw [lowercase]
  split
  · exact List.cons_ne_nil _ _
  · rw [caseMapping]
    split
    · rename_i hfind
      simpa using lowercaseExpansions_ne_nil _ (List.mem_of_find?_eq_some hfind)
    · exact List.cons_ne_nil _ _

/-! ## Words -/

theorem mem_flush {word w : List Char} {rest : List (List Char)} :
    w ∈ flush word rest ↔ (w = word ∧ word ≠ []) ∨ w ∈ rest := by
  cases word with
  | nil => simp [flush]
  | cons c word => simp [flush]

/-- What holds of the word that was begun and of all lower-case mappings holds of all words. -/
theorem forall_mem_wordsFrom {p : Char → Prop} {name : List Char}
    (hname : ∀ c ∈ name, isAlphanumeric c = true → ∀ d ∈ lowercase c, p d) {word : List Char}
    (hword : ∀ d ∈ word, p d) (previous : Char) :
    ∀ w ∈ wordsFrom previous word name, w ≠ [] ∧ ∀ d ∈ w, p d := by
  induction name generalizing word previous with
  | nil =>
    intro w hw
    rw [wordsFrom, mem_flush] at hw
    rcases hw with ⟨rfl, hne⟩ | hw
    · exact ⟨hne, hword⟩
    · cases hw
  | cons c rest ih =>
    have hrest : ∀ c ∈ rest, isAlphanumeric c = true → ∀ d ∈ lowercase c, p d :=
      fun c hc => hname c (List.mem_cons_of_mem _ hc)
    have hlowercase : isAlphanumeric c = true → ∀ d ∈ lowercase c, p d := hname c (by simp)
    intro w hw
    rw [wordsFrom] at hw
    split at hw
    · rcases mem_flush.1 hw with ⟨rfl, hne⟩ | hw
      · exact ⟨hne, hword⟩
      · exact ih hrest (by simp) c w hw
    rename_i hc
    have hc : isAlphanumeric c = true := by simpa using hc
    split at hw
    · rename_i hbegins
      rcases List.mem_cons.1 hw with rfl | hw
      · simp only [Bool.and_eq_true, Bool.not_eq_true', List.isEmpty_eq_false_iff] at hbegins
        exact ⟨hbegins.1.2, hword⟩
      · exact ih hrest (hlowercase hc) c w hw
    · refine ih hrest (fun d hd => ?_) c w hw
      rcases List.mem_append.1 hd with hd | hd
      · exact hword d hd
      · exact hlowercase hc d hd

/-- **Words are not empty and made of lower-case mappings.** -/
theorem forall_mem_words {p : Char → Prop} {name : List Char}
    (hname : ∀ c ∈ name, isAlphanumeric c = true → ∀ d ∈ lowercase c, p d) :
    ∀ w ∈ words name, w ≠ [] ∧ ∀ d ∈ w, p d :=
  forall_mem_wordsFrom hname (by simp) ' '

theorem isPlainChar_of_mem_words (name : List Char) :
    ∀ w ∈ words name, w ≠ [] ∧ ∀ d ∈ w, IsPlainChar d :=
  forall_mem_words fun _ _ hc _ hd => isPlainChar_of_mem_lowercase hc hd

/-! ## Snake-case names -/

/-- Words joined by underscores end as the last of them does. -/
theorem getLast?_intercalate {ws : List (List Char)} (h : ∀ w ∈ ws, w ≠ []) :
    (['_'].intercalate ws).getLast? = ws.getLast?.bind List.getLast? := by
  induction ws with
  | nil => rfl
  | cons w rest ih =>
    cases rest with
    | nil => simp
    | cons v rest =>
      have hlast : (v :: rest).getLast?.bind List.getLast? ≠ none := by
        have hmem := List.getLast_mem (List.cons_ne_nil v rest)
        rw [List.getLast?_eq_getLast_of_ne_nil (List.cons_ne_nil v rest), Option.bind_some]
        simpa using h _ (List.mem_cons_of_mem w hmem)
      rw [List.intercalate_cons_cons, List.getLast?_append, ih fun w hw => h w (by simp [hw])]
      cases hv : (v :: rest).getLast?.bind List.getLast? with
      | none => exact absurd hv hlast
      | some d => rw [List.getLast?_cons_cons, hv]; rfl

theorem guardLeadingDigit_cases (cs : List Char) :
    guardLeadingDigit cs = cs ∨ guardLeadingDigit cs = '_' :: cs := by
  cases cs with
  | nil => exact .inr rfl
  | cons c rest =>
    rw [guardLeadingDigit]
    split
    · exact .inl rfl
    · exact .inr rfl

theorem mem_intercalate {ws : List (List Char)} {c : Char} (h : c ∈ ['_'].intercalate ws) :
    c = '_' ∨ ∃ w ∈ ws, c ∈ w := by
  induction ws with
  | nil => cases h
  | cons w rest ih =>
    cases rest with
    | nil => exact .inr ⟨w, by simp, by simpa using h⟩
    | cons v rest =>
      rw [List.intercalate_cons_cons, List.mem_append, List.mem_append, List.mem_singleton] at h
      rcases h with (h | h) | h
      · exact .inr ⟨w, by simp, h⟩
      · exact .inl h
      · exact (ih h).imp_right fun ⟨u, hu, hmem⟩ => ⟨u, by simp [hu], hmem⟩

theorem hash_not_mem_snakeChars (name : List Char) : '#' ∉ snakeChars name := by
  have hjoined : '#' ∉ ['_'].intercalate (words name) := by
    intro h
    rcases mem_intercalate h with h | ⟨w, hw, hmem⟩
    · cases h
    · exact ((isPlainChar_of_mem_words name w hw).2 _ hmem).2 rfl
  rw [snakeChars]
  rcases guardLeadingDigit_cases (['_'].intercalate (words name)) with h | h
  · rwa [h]
  · rw [h]
    simpa using hjoined

theorem getLast?_guardLeadingDigit {cs : List Char} (h : cs ≠ []) :
    (guardLeadingDigit cs).getLast? = cs.getLast? := by
  rcases guardLeadingDigit_cases cs with hguard | hguard
  · rw [hguard]
  · rw [hguard, List.getLast?_cons, List.getLast?_eq_getLast_of_ne_nil h, Option.getD_some]

/-- A snake-case name that ends in an underscore has no words and is the underscore. -/
theorem eq_nil_of_snakeChars_eq {name cs : List Char} (h : snakeChars name = cs ++ ['_']) :
    cs = [] := by
  have hwords := isPlainChar_of_mem_words name
  have hjoined := getLast?_intercalate fun w hw => (hwords w hw).1
  by_cases hnone : words name = []
  · have : ['_'] = cs ++ ['_'] := by rw [← h, snakeChars, hnone]; rfl
    simpa using this
  have hmem : (words name).getLast hnone ∈ words name := List.getLast_mem _
  obtain ⟨hne, hplain⟩ := hwords _ hmem
  rw [List.getLast?_eq_getLast_of_ne_nil hnone, Option.bind_some,
    List.getLast?_eq_getLast_of_ne_nil hne] at hjoined
  have hend : some '_' = (['_'].intercalate (words name)).getLast? := by
    rw [← getLast?_guardLeadingDigit fun hnil => by simp [hnil] at hjoined, ← snakeChars, h,
      List.getLast?_append, List.getLast?_singleton, Option.some_or]
  rw [hjoined, Option.some.injEq] at hend
  exact absurd hend.symm (hplain _ (List.getLast_mem hne)).1

/-! ## Escaped keywords -/

theorem toList_snakeCase (name : String) : (snakeCase name).toList = snakeChars name.toList :=
  String.toList_ofList

/-- The three forms of an escaped identifier. -/
theorem escapeKeyword_cases (identifier : String) :
    (identifier ∈ pathKeywords ∧ escapeKeyword identifier = identifier ++ "_") ∨
      escapeKeyword identifier = "r#" ++ identifier ∨ escapeKeyword identifier = identifier := by
  rw [escapeKeyword]
  split
  · rename_i h
    exact .inl ⟨h, rfl⟩
  split
  · exact .inr (.inl rfl)
  · exact .inr (.inr rfl)

theorem snakeCase_ne_raw (a s : String) : snakeCase a ≠ "r#" ++ s := by
  intro h
  refine hash_not_mem_snakeChars a.toList ?_
  rw [← toList_snakeCase, h, String.toList_append]
  simp

theorem snakeCase_ne_append_underscore {a : String} (h : a ∈ pathKeywords) (b : String) :
    snakeCase b ≠ a ++ "_" := by
  intro heq
  have hlist := congrArg String.toList heq
  rw [toList_snakeCase, String.toList_append] at hlist
  have hempty : a = "" := by
    rw [← String.toList_inj, eq_nil_of_snakeChars_eq hlist]
    rfl
  rw [hempty] at h
  revert h
  decide

theorem append_underscore_ne_raw {a : String} (h : a ∈ pathKeywords) (s : String) :
    a ++ "_" ≠ "r#" ++ s := by
  have hhash : ∀ a ∈ pathKeywords, '#' ∉ (a ++ "_").toList := by decide
  intro heq
  refine hhash a h ?_
  rw [heq, String.toList_append]
  simp

/-- **Escaping keeps snake-case names apart.** -/
theorem escapeKeyword_snakeCase_inj {a b : String}
    (h : escapeKeyword (snakeCase a) = escapeKeyword (snakeCase b)) :
    snakeCase a = snakeCase b := by
  obtain ⟨hka, ha⟩ | ha | ha := escapeKeyword_cases (snakeCase a) <;>
    obtain ⟨hkb, hb⟩ | hb | hb := escapeKeyword_cases (snakeCase b) <;> rw [ha, hb] at h
  case inl.inl => exact (String.append_left_inj "_").1 h
  case inl.inr.inl => exact absurd h (append_underscore_ne_raw hka _)
  case inl.inr.inr => exact absurd h.symm (snakeCase_ne_append_underscore hka b)
  case inr.inl.inl => exact absurd h.symm (append_underscore_ne_raw hkb _)
  case inr.inl.inr.inl => exact (String.append_right_inj "r#").1 h
  case inr.inl.inr.inr => exact absurd h.symm (snakeCase_ne_raw b _)
  case inr.inr.inl => exact absurd h (snakeCase_ne_append_underscore hkb a)
  case inr.inr.inr.inl => exact absurd h (snakeCase_ne_raw a _)
  case inr.inr.inr.inr => exact h

end Tablewright.Naming
