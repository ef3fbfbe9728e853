import Tablewright.Proofs.Naming.AsciiNames

/-!
# Styles of spelling

Plain words, of lower-case letters and digits, are spelled in one name by underscores between them
or by capitals at their beginnings. A plain word is read as a whole, and a capital or an underscore
behind it ends it (`wordsFrom_append`, `wordsFrom_capitals`), so every style is read back as the words
that were spelled (`words_spell`). All identifiers of a name come from its words, and do not depend on
the style of its spelling.
-/

namespace Tablewright.Naming

open Text

/-! ## Plain words -/

/-- A lower-case letter, then at least one more lower-case letter or digit. -/
def isPlainWord : List Char → Bool
  | first :: second :: rest => first.isLower && (second :: rest).all isWordChar
  | _ => false

theorem isWordChar_of_isLower {c : Char} (h : c.isLower = true) : isWordChar c = true := by
  rw [isWordChar, h, Bool.true_or]

theorem exists_of_isPlainWord {w : List Char} (h : isPlainWord w = true) :
    ∃ first tail, w = first :: tail ∧ first.isLower = true ∧ tail ≠ [] ∧
      ∀ c ∈ tail, isWordChar c = true := by
  match w, h with
  | first :: second :: rest, h =>
    rw [isPlainWord, Bool.and_eq_true, List.all_eq_true] at h
    exact ⟨first, second :: rest, rfl, h.1, List.cons_ne_nil _ _, h.2⟩

theorem wordChars_of_isPlainWord {w : List Char} (h : isPlainWord w = true) :
    w ≠ [] ∧ ∀ c ∈ w, isWordChar c = true := by
  obtain ⟨first, tail, rfl, hfirst, -, htail⟩ := exists_of_isPlainWord h
  exact ⟨List.cons_ne_nil _ _, List.forall_mem_cons.2 ⟨isWordChar_of_isLower hfirst, htail⟩⟩

/-- A word with its first letter as a capital. -/
def withCapital : List Char → List Char
  | [] => []
  | first :: rest => first.toUpper :: rest

/-- The ways to spell several words as one name. -/
inductive SpellingStyle
  /-- As in `periodic_task`. -/
  | snake
  /-- As in `periodicTask`. -/
  | camel
  /-- As in `PeriodicTask`. -/
  | pascal
  deriving DecidableEq, Repr

/-- The name that words make. -/
def SpellingStyle.spell (ws : List (List Char)) : SpellingStyle → List Char
  | snake => ['_'].intercalate ws
  | camel => ws.head?.getD [] ++ ws.tail.flatMap withCapital
  | pascal => ws.flatMap withCapital

/-! ## Characters -/

/-- What the reading of words asks about a character of a word. -/
theorem wordChar_tests : ∀ n : Fin 128, isWordChar (Char.ofNat n) = true →
    isAlphanumeric (Char.ofNat n) = true ∧ isUppercase (Char.ofNat n) = false ∧
      lowercase (Char.ofNat n) = [Char.ofNat n] ∧
      (isLowercase (Char.ofNat n) || isNumeric (Char.ofNat n)) = true := by
  decide

/-- What it asks about a capital. -/
theorem capital_tests : ∀ n : Fin 128, (Char.ofNat n).isLower = true →
    isAlphanumeric (Char.ofNat n).toUpper = true ∧ isUppercase (Char.ofNat n).toUpper = true ∧
      lowercase (Char.ofNat n).toUpper = [Char.ofNat n] ∧
      uppercase (Char.ofNat n) = [(Char.ofNat n).toUpper] ∧
      isAlphabetic (Char.ofNat n) = true ∧ isAlphabetic (Char.ofNat n).toUpper = true := by
  decide

theorem isAscii_of_isWordChar {c : Char} (h : isWordChar c = true) : isAscii c = true :=
  isAscii_of_isSnakeChar (isSnakeChar_of_isWordChar h)

section Tests

variable {c : Char}

theorem tests_of_isWordChar (h : isWordChar c = true) :
    isAlphanumeric c = true ∧ isUppercase c = false ∧ lowercase c = [c] ∧
      (isLowercase c || isNumeric c) = true := by
  obtain ⟨n, rfl⟩ := exists_fin_of_isAscii (isAscii_of_isWordChar h)
  exact wordChar_tests n h

theorem tests_of_isLower (h : c.isLower = true) :
    isAlphanumeric c.toUpper = true ∧ isUppercase c.toUpper = true ∧ lowercase c.toUpper = [c] ∧
      uppercase c = [c.toUpper] ∧ isAlphabetic c = true ∧ isAlphabetic c.toUpper = true := by
  obtain ⟨n, rfl⟩ := exists_fin_of_isAscii (isAscii_of_isWordChar (isWordChar_of_isLower h))
  exact capital_tests n h

end Tests

/-- A run of characters of words ends in one. -/
theorem isWordChar_getLast?_getD {cs : List Char} (hne : cs ≠ [])
    (h : ∀ c ∈ cs, isWordChar c = true) (d : Char) : isWordChar (cs.getLast?.getD d) = true := by
  rw [List.getLast?_eq_getLast_of_ne_nil hne, Option.getD_some]
  exact h _ (List.getLast_mem hne)

/-! ## Reading words -/

section Words

variable {previous : Char} {word rest : List Char}

/-- Characters of words go to the word that is being read. -/
theorem wordsFrom_append {cs : List Char} (h : ∀ c ∈ cs, isWordChar c = true) :
    wordsFrom previous word (cs ++ rest) =
      wordsFrom (cs.getLast?.getD previous) (word ++ cs) rest := by
  induction cs generalizing previous word with
  | nil => simp
  | cons c cs ih =>
    obtain ⟨halpha, hupper, hlower, -⟩ := tests_of_isWordChar (h c (by simp))
    rw [List.cons_append, wordsFrom, halpha, hupper, hlower, if_neg (by simp), if_neg (by simp),
      ih fun d hd => h d (by simp [hd]), List.append_assoc, List.singleton_append,
      List.getLast?_cons, Option.getD_some]

/-- A capital behind a word begins the next one. -/
theorem wordsFrom_capital {first : Char} (hfirst : first.isLower = true)
    (hprevious : isWordChar previous = true) (hword : word ≠ []) :
    wordsFrom previous word (first.toUpper :: rest) =
      word :: wordsFrom first.toUpper [first] rest := by
  obtain ⟨halpha, hupper, hlower, -⟩ := tests_of_isLower hfirst
  obtain ⟨-, -, -, hbegins⟩ := tests_of_isWordChar hprevious
  rw [wordsFrom, halpha, hupper, hlower, beginsWord, hbegins, if_neg (by simp),
    if_pos (by simp [hword])]

/-- Words with capitals are read behind another word. -/
theorem wordsFrom_capitals {ws : List (List Char)} (h : ∀ w ∈ ws, isPlainWord w = true)
    (hprevious : isWordChar previous = true) (hword : word ≠ []) :
    wordsFrom previous word (ws.flatMap withCapital) = word :: ws := by
  induction ws generalizing previous word with
  | nil =>
    rw [List.flatMap_nil, wordsFrom, flush, if_neg (by simpa using hword)]
  | cons w ws ih =>
    obtain ⟨first, tail, rfl, hfirst, hne, htail⟩ := exists_of_isPlainWord (h w (by simp))
    have hlast := isWordChar_getLast?_getD hne htail first.toUpper
    rw [List.flatMap_cons, withCapital, List.cons_append, wordsFrom_capital hfirst hprevious hword,
      wordsFrom_append htail, List.singleton_append,
      ih (fun v hv => h v (by simp [hv])) hlast (List.cons_ne_nil _ _)]

/-- Words with underscores between them are read, whatever characters of words they begin with. -/
theorem wordsFrom_snake {ws : List (List Char)}
    (h : ∀ w ∈ ws, w ≠ [] ∧ ∀ c ∈ w, isWordChar c = true) :
    wordsFrom previous [] (['_'].intercalate ws) = ws := by
  induction ws generalizing previous with
  | nil => rfl
  | cons w ws ih =>
    obtain ⟨hne, hchars⟩ := h w (by simp)
    obtain ⟨first, tail, rfl⟩ := List.exists_cons_of_ne_nil hne
    have hmark : isAlphanumeric '_' = false := by decide
    cases ws with
    | nil =>
      have hword : wordsFrom previous [] (first :: tail ++ []) = [first :: tail] :=
        wordsFrom_append hchars
      rw [List.append_nil] at hword
      rw [List.intercalate_singleton, hword]
    | cons v ws =>
      rw [List.intercalate_cons_cons, List.append_assoc, wordsFrom_append hchars, List.nil_append,
        List.singleton_append, wordsFrom, hmark, Bool.not_false, if_pos rfl,
        ih fun u hu => h u (by simp [hu])]
      rfl

end Words

/-- **Every style is read back** as the words that were spelled. -/
theorem words_spell {ws : List (List Char)} (h : ∀ w ∈ ws, isPlainWord w = true)
    (style : SpellingStyle) : words (style.spell ws) = ws := by
  cases ws with
  | nil => cases style <;> rfl
  | cons w ws =>
    obtain ⟨first, tail, rfl, hfirst, hne, htail⟩ := exists_of_isPlainWord (h w (by simp))
    have hws : ∀ v ∈ ws, isPlainWord v = true := fun v hv => h v (by simp [hv])
    cases style with
    | snake => exact wordsFrom_snake fun v hv => wordChars_of_isPlainWord (h v hv)
    | camel =>
      obtain ⟨-, hchars⟩ := wordChars_of_isPlainWord (h (first :: tail) (by simp))
      have hlast := isWordChar_getLast?_getD (List.cons_ne_nil _ _) hchars ' '
      change wordsFrom ' ' [] ((first :: tail) ++ ws.flatMap withCapital) = _
      rw [wordsFrom_append hchars, List.nil_append, wordsFrom_capitals hws hlast (List.cons_ne_nil _ _)]
    | pascal =>
      obtain ⟨halpha, -, hlower, -⟩ := tests_of_isLower hfirst
      have hlast := isWordChar_getLast?_getD hne htail first.toUpper
      change wordsFrom ' ' [] (first.toUpper :: (tail ++ ws.flatMap withCapital)) = _
      rw [wordsFrom, halpha, hlower, if_neg (by simp), if_neg (by simp), List.nil_append,
        wordsFrom_append htail, List.singleton_append,
        wordsFrom_capitals hws hlast (List.cons_ne_nil _ _)]

/-! ## Identifiers of the names -/

theorem capitalize_of_isPlainWord {w : List Char} (h : isPlainWord w = true) :
    capitalize w = withCapital w := by
  obtain ⟨first, tail, rfl, hfirst, -, -⟩ := exists_of_isPlainWord h
  obtain ⟨-, -, -, hupper, -, -⟩ := tests_of_isLower hfirst
  rw [capitalize, hupper, withCapital, List.singleton_append]

theorem guardLeadingDigit_of_isAlphabetic {first : Char} (h : isAlphabetic first = true)
    (rest : List Char) : guardLeadingDigit (first :: rest) = first :: rest := by
  rw [guardLeadingDigit, if_pos h]

/-- Words with underscores between them begin as the first of them does. -/
theorem intercalate_cons_cons_eq_cons (first : Char) (tail : List Char) (ws : List (List Char)) :
    ∃ rest, ['_'].intercalate ((first :: tail) :: ws) = first :: rest := by
  cases ws with
  | nil => exact ⟨tail, List.intercalate_singleton ..⟩
  | cons v ws =>
    exact ⟨tail ++ ['_'] ++ ['_'].intercalate (v :: ws), List.intercalate_cons_cons ..⟩

section Names

variable {ws : List (List Char)} (hne : ws ≠ []) (hws : ∀ w ∈ ws, isPlainWord w = true)
  {name : List Char} (hname : words name = ws)

include hne hws hname

theorem snakeChars_of_words : snakeChars name = SpellingStyle.snake.spell ws := by
  obtain ⟨w, others, rfl⟩ := List.exists_cons_of_ne_nil hne
  obtain ⟨first, tail, rfl, hfirst, -, -⟩ := exists_of_isPlainWord (hws w (by simp))
  obtain ⟨-, -, -, -, halpha, -⟩ := tests_of_isLower hfirst
  obtain ⟨rest, hrest⟩ := intercalate_cons_cons_eq_cons first tail others
  rw [snakeChars, hname, SpellingStyle.spell, hrest, guardLeadingDigit_of_isAlphabetic halpha]

theorem upperCamelChars_of_words : upperCamelChars name = SpellingStyle.pascal.spell ws := by
  have hcapitals : ws.flatMap capitalize = ws.flatMap withCapital :=
    List.flatMap_congr fun w hw => capitalize_of_isPlainWord (hws w hw)
  rw [upperCamelChars, hname, hcapitals, SpellingStyle.spell]
  obtain ⟨w, others, rfl⟩ := List.exists_cons_of_ne_nil hne
  obtain ⟨first, tail, rfl, hfirst, -, -⟩ := exists_of_isPlainWord (hws w (by simp))
  obtain ⟨-, -, -, -, -, halpha⟩ := tests_of_isLower hfirst
  rw [List.flatMap_cons, withCapital, List.cons_append, guardLeadingDigit_of_isAlphabetic halpha]

theorem screamingChars_of_words :
    screamingChars name = (SpellingStyle.snake.spell ws).map Char.toUpper := by
  rw [screamingChars, snakeChars_of_words hne hws hname, List.map_eq_flatMap]
  refine List.flatMap_congr fun c hc => ?_
  have hascii : isAscii c = true := by
    rcases mem_intercalate hc with rfl | ⟨w, hw, hmem⟩
    · decide
    · exact isAscii_of_isWordChar ((wordChars_of_isPlainWord (hws w hw)).2 c hmem)
  rw [uppercase, if_pos hascii]

end Names

/-- **Identifiers do not depend on the style**: whatever the style in which plain words are spelled as
one name, its words are those that were spelled, and its identifiers are those of the words. -/
theorem identifiers_of_spelling {ws : List (List Char)} (hne : ws ≠ [])
    (hws : ∀ w ∈ ws, isPlainWord w = true) (style : SpellingStyle) :
    let name := String.ofList (style.spell ws)
    words name.toList = ws ∧
      snakeCase name = String.ofList (SpellingStyle.snake.spell ws) ∧
      upperCamelCase name = String.ofList (SpellingStyle.pascal.spell ws) ∧
      screamingSnakeCase name =
        String.ofList ((SpellingStyle.snake.spell ws).map Char.toUpper) := by
  intro name
  have hname : words name.toList = ws := by
    rw [String.toList_ofList]
    exact words_spell hws style
  exact ⟨hname, congrArg String.ofList (snakeChars_of_words hne hws hname),
    congrArg String.ofList (upperCamelChars_of_words hne hws hname),
    congrArg String.ofList (screamingChars_of_words hne hws hname)⟩

/-- Words that end in digits, spelled as `task2Http2X9y`. -/
theorem identifiers_of_spelling_of_digits :
    let ws := ["task2", "http2", "x9y"].map String.toList
    (ws ≠ [] ∧ ∀ w ∈ ws, isPlainWord w = true) ∧
      String.ofList (SpellingStyle.camel.spell ws) = "task2Http2X9y" ∧
      words "task2Http2X9y".toList = ws ∧ snakeCase "task2Http2X9y" = "task2_http2_x9y" ∧
      upperCamelCase "task2Http2X9y" = "Task2Http2X9y" ∧
      screamingSnakeCase "task2Http2X9y" = "TASK2_HTTP2_X9Y" := by
  have hplain : ∀ w ∈ ["task2", "http2", "x9y"].map String.toList, isPlainWord w = true := by decide
  exact ⟨⟨by decide, hplain⟩, rfl, identifiers_of_spelling (by decide) hplain .camel⟩

end Tablewright.Naming
