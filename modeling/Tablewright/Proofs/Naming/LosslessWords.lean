import Tablewright.AccessModule.TableSection
import Tablewright.Proofs.Naming.SpellingStyles

/-!
# Words lose nothing

Cutting a name into words drops what is neither letter nor digit and puts the rest in lower case.
Nothing else is lost: the words hold the rest, in order (`flatten_wordsFrom`). A snake-case name is
cut at its underscores only, so an ASCII name in snake case has the words that it had before
(`words_snakeChars`). In a camel-case name just the capitals begin words, so the words, capitalized,
are the name again, but for its first letter (`flatMap_capitalize_wordsFrom`).
-/

namespace Tablewright.Naming

open Text

/-! ## The characters of the words -/

theorem flatten_flush (word : List Char) (rest : List (List Char)) :
    (flush word rest).flatten = word ++ rest.flatten := by
  cases word <;> rfl

/-- The words hold the word that was begun, then the lower-case mappings of all letters and digits
that are still to come: a word that ends hands nothing on, and one that goes on loses nothing. -/
theorem flatten_wordsFrom (previous : Char) (word name : List Char) :
    (wordsFrom previous word name).flatten =
      word ++ (name.filter isAlphanumeric).flatMap lowercase := by
  induction name generalizing previous word with
  | nil => rw [wordsFrom, flatten_flush]; rfl
  | cons c rest ih =>
    rw [wordsFrom]
    split
    case isTrue hc =>
      have hnot : ¬isAlphanumeric c = true := by simpa using hc
      rw [flatten_flush, ih, List.filter_cons_of_neg hnot, List.nil_append]
    case isFalse hc =>
      have halpha : isAlphanumeric c = true := by simpa using hc
      rw [List.filter_cons_of_pos halpha, List.flatMap_cons]
      split
      case isTrue => rw [List.flatten_cons, ih]
      case isFalse => rw [ih, List.append_assoc]

/-! ## Snake-case names -/

/-- The underscore put in front of a digit, or of nothing, is in no word. -/
theorem exists_words_guardLeadingDigit (cs : List Char) :
    ∃ previous, words (guardLeadingDigit cs) = wordsFrom previous [] cs := by
  rcases guardLeadingDigit_cases cs with hguard | hguard
  · exact ⟨' ', congrArg words hguard⟩
  · have hmark : isAlphanumeric '_' = false := by decide
    refine ⟨'_', ?_⟩
    rw [hguard, words, wordsFrom, hmark, Bool.not_false, if_pos rfl]
    rfl

/-- **A snake-case name has the words that it was made of.** -/
theorem words_snakeChars {name : String} (h : IsAsciiName name) :
    words (snakeChars name.toList) = words name.toList := by
  obtain ⟨previous, hguard⟩ :=
    exists_words_guardLeadingDigit (['_'].intercalate (words name.toList))
  rw [snakeChars, hguard, wordsFrom_snake (isWordChar_of_mem_words h)]

/-- **Words lose nothing and are stable**: they are not empty and hold the lower-case mappings of all
letters and digits of the name, in order; and an ASCII name in snake case has the same words, so that
putting it in snake case again changes nothing. -/
theorem words_lossless_stable (name : String) :
    (∀ w ∈ words name.toList, w ≠ []) ∧
      (words name.toList).flatten = (name.toList.filter isAlphanumeric).flatMap lowercase ∧
      (IsAsciiName name → words (snakeCase name).toList = words name.toList ∧
        snakeCase (snakeCase name) = snakeCase name) := by
  refine ⟨fun w hw => (isPlainChar_of_mem_words _ w hw).1, flatten_wordsFrom ' ' [] _, fun h => ?_⟩
  have hwords : words (snakeCase name).toList = words name.toList := by
    rw [toList_snakeCase, words_snakeChars h]
  refine ⟨hwords, ?_⟩
  calc snakeCase (snakeCase name)
      = String.ofList (guardLeadingDigit
          (['_'].intercalate (words (snakeCase name).toList))) := rfl
    _ = String.ofList (guardLeadingDigit (['_'].intercalate (words name.toList))) := by rw [hwords]
    _ = snakeCase name := rfl

/-- A name that begins with a digit, with capitals behind a digit and behind each other. -/
theorem words_lossless_stable_of_leadingDigit :
    IsAsciiName "1st HTTPServer2Go" ∧
      words (snakeCase "1st HTTPServer2Go").toList = words "1st HTTPServer2Go".toList ∧
      snakeCase "1st HTTPServer2Go" = "_1st_http_server2_go" ∧
      snakeCase "_1st_http_server2_go" = "_1st_http_server2_go" := by
  have h : IsAsciiName "1st HTTPServer2Go" := by decide
  have hsnake : snakeCase "1st HTTPServer2Go" = "_1st_http_server2_go" := by decide
  obtain ⟨-, -, hascii⟩ := words_lossless_stable "1st HTTPServer2Go"
  obtain ⟨hwords, hstable⟩ := hascii h
  rw [hsnake] at hstable
  exact ⟨h, hwords, hsnake, hstable⟩

/-! ## Camel-case names -/

/-- Characters that may stand beside each other in a camel-case name: they are not both capitals. -/
def AreApart (c d : Char) : Prop :=
  ¬(c.isUpper = true ∧ d.isUpper = true)

instance (c d : Char) : Decidable (AreApart c d) :=
  inferInstanceAs (Decidable (¬_))

/-- A name in camel case, of ASCII letters and digits: it begins with a lower-case letter, and capitals
do not follow each other. -/
structure IsCamelCase (name : String) : Prop where
  alphanumeric : ∀ c ∈ name.toList, c.isAlphanum = true
  front : ∃ first rest, name.toList = first :: rest ∧ first.isLower = true
  apart : name.toList.IsChain AreApart

theorem toUpper_toLower_of_isUpper : ∀ n : Fin 128, (Char.ofNat n).isUpper = true →
    (Char.ofNat n).toLower.isLower = true ∧ (Char.ofNat n).toLower.toUpper = Char.ofNat n := by
  decide

/-- A letter or digit is a character of words, or a capital. -/
theorem alphanum_cases {c : Char} (h : c.isAlphanum = true) :
    isWordChar c = true ∨ c.isUpper = true ∧ ∃ d : Char, d.isLower = true ∧ d.toUpper = c := by
  obtain ⟨n, rfl⟩ := exists_fin_of_isAscii (isAscii_of_isAlphanum h)
  rw [isAlphanum_eq, Bool.or_eq_true] at h
  rcases h with hupper | hchar
  · obtain ⟨hlower, heq⟩ := toUpper_toLower_of_isUpper n hupper
    exact .inr ⟨hupper, _, hlower, heq⟩
  · exact .inl hchar

theorem capitalize_append {word : List Char} (h : word ≠ []) (rest : List Char) :
    capitalize (word ++ rest) = capitalize word ++ rest := by
  obtain ⟨first, tail, rfl⟩ := List.exists_cons_of_ne_nil h
  rw [List.cons_append, capitalize, capitalize, List.append_assoc]

theorem capitalize_singleton {d : Char} (h : d.isLower = true) : capitalize [d] = [d.toUpper] := by
  obtain ⟨-, -, -, hupper, -, -⟩ := tests_of_isLower h
  rw [capitalize, hupper, List.append_nil]

/-- **The words of a camel-case name, capitalized, spell it**: every capital begins a word, since it
does not follow another one, and comes back from the lower-case letter that the word begins with. -/
theorem flatMap_capitalize_wordsFrom {previous : Char} {word rest : List Char}
    (hchars : ∀ c ∈ previous :: rest, c.isAlphanum = true)
    (hapart : (previous :: rest).IsChain AreApart) (hword : word ≠ []) :
    (wordsFrom previous word rest).flatMap capitalize = capitalize word ++ rest := by
  induction rest generalizing previous word with
  | nil =>
    rw [wordsFrom, flush, if_neg (by simpa using hword), List.flatMap_singleton, List.append_nil]
  | cons c rest ih =>
    obtain ⟨hprevious, hrest⟩ := List.forall_mem_cons.1 hchars
    obtain ⟨hpair, htail⟩ := List.isChain_cons_cons.1 hapart
    rcases alphanum_cases (hrest c List.mem_cons_self) with hc | ⟨hupper, d, hd, rfl⟩
    · -- the word goes on
      have hstep : wordsFrom previous word ([c] ++ rest) = wordsFrom c (word ++ [c]) rest :=
        wordsFrom_append (by simpa using hc)
      rw [← List.singleton_append, hstep, ih hrest htail (List.append_ne_nil_of_left_ne_nil hword _),
        capitalize_append hword, List.append_assoc]
    · -- the next word begins
      rcases alphanum_cases hprevious with hwordChar | ⟨hcapital, -⟩
      · rw [wordsFrom_capital hd hwordChar hword, List.flatMap_cons,
          ih hrest htail (List.cons_ne_nil _ _), capitalize_singleton hd, List.singleton_append]
      · exact absurd ⟨hcapital, hupper⟩ hpair

theorem upperCamelChars_of_isCamelCase {name : String} (h : IsCamelCase name) :
    upperCamelChars name.toList = withCapital name.toList := by
  obtain ⟨first, rest, hname, hfirst⟩ := h.front
  have hchars := h.alphanumeric
  have hapart := h.apart
  rw [hname] at hchars hapart
  obtain ⟨-, -, -, -, -, hletter⟩ := tests_of_isLower hfirst
  have hbegin : wordsFrom ' ' [] ([first] ++ rest) = wordsFrom first [first] rest :=
    wordsFrom_append (by simpa using isWordChar_of_isLower hfirst)
  rw [List.singleton_append] at hbegin
  rw [upperCamelChars, hname, words, hbegin,
    flatMap_capitalize_wordsFrom hchars hapart (List.cons_ne_nil _ _), capitalize_singleton hfirst,
    List.singleton_append, guardLeadingDigit_of_isAlphabetic hletter, withCapital]

/-- **A camel-case name in upper camel case is the name with a capital in front**, and so is its part
in the name of a parameter struct. -/
theorem upperCamelCase_of_isCamelCase {name : String} (h : IsCamelCase name) :
    upperCamelCase name = String.ofList (withCapital name.toList) ∧
      ∀ (role : AccessModule.Role) (t : Table), t.name = name →
        AccessModule.structName role t =
          role.typePrefix ++ String.ofList (withCapital name.toList) ++ "Params" := by
  have hcamel : upperCamelCase name = String.ofList (withCapital name.toList) :=
    congrArg String.ofList (upperCamelChars_of_isCamelCase h)
  refine ⟨hcamel, fun role t ht => ?_⟩
  rw [AccessModule.structName, ht, hcamel]

/-- A name with digits before and behind capitals, and with words of one letter. -/
theorem upperCamelCase_of_isCamelCase_digits :
    IsCamelCase "x2yHttpV2Z9A" ∧ upperCamelCase "x2yHttpV2Z9A" = "X2yHttpV2Z9A" ∧
      AccessModule.structName .insert ⟨"x2yHttpV2Z9A", []⟩ = "InsertX2yHttpV2Z9AParams" := by
  have h : IsCamelCase "x2yHttpV2Z9A" :=
    ⟨List.all_eq_true.1 (by decide), ⟨_, _, rfl, by decide⟩, by decide⟩
  obtain ⟨hcamel, hstruct⟩ := upperCamelCase_of_isCamelCase h
  exact ⟨h, hcamel, hstruct .insert ⟨"x2yHttpV2Z9A", []⟩ rfl⟩

end Tablewright.Naming
