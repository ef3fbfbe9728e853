import Tablewright.Proofs.AccessModule.ModuleItems
import Tablewright.Proofs.Naming.AsciiNames

/-!
# Legal identifiers

What the generated language takes for a name (`isLegalName`): a plain identifier that is no keyword,
or a raw identifier. The names of structs, functions and variants are legal whatever an ASCII name
holds, since something stands in front of the name or behind it. Constants, modules and fields are
made of one name alone, and are legal exactly if it holds a letter or a digit
(`isLegalName_screaming_iff`, `isLegalName_field_iff`).
-/

namespace Tablewright.Naming

open Text AccessModule

/-- The keywords of the generated language. -/
def keywords : List String :=
  ["as", "async", "await", "break", "const", "continue", "crate", "dyn", "else", "enum", "extern",
    "false", "fn", "for", "if", "impl", "in", "let", "loop", "match", "mod", "move", "mut", "pub",
    "ref", "return", "self", "Self", "static", "struct", "super", "trait", "true", "type", "unsafe",
    "use", "where", "while", "abstract", "become", "box", "do", "final", "gen", "macro", "override",
    "priv", "try", "typeof", "unsized", "virtual", "yield"]

/-- Whether a text is a name: a plain identifier but no keyword, or a raw identifier. -/
def isLegalName (name : String) : Bool :=
  match name.toList with
  | 'r' :: '#' :: raw =>
    isIdentifier raw && String.ofList raw ∉ ["crate", "self", "super", "Self"]
  | plain => isIdentifier plain && name ∉ keywords

/-! ## Plain identifiers -/

/-- The characters behind the first one of an identifier. -/
def isTailChar (c : Char) : Bool :=
  isAlphanumeric c || c == '_'

/-- The first characters of identifiers. -/
def isHeadChar (c : Char) : Bool :=
  isAlphabetic c || c == '_'

/-- A text that begins like an identifier and goes on like one. -/
structure IsIdentifierLike (cs : List Char) : Prop where
  head : ∃ c rest, cs = c :: rest ∧ isHeadChar c = true
  tail : ∀ c ∈ cs, isTailChar c = true

theorem isIdentifier_iff {cs : List Char} (h : IsIdentifierLike cs) :
    isIdentifier cs = true ↔ cs ≠ ['_'] := by
  obtain ⟨⟨c, rest, rfl, hc⟩, htail⟩ := h
  have hrest : (rest.all fun c => isAlphanumeric c || c == '_') = true :=
    List.all_eq_true.2 fun d hd => htail d (List.mem_cons_of_mem c hd)
  rw [isHeadChar] at hc
  rw [isIdentifier, hc, hrest, Bool.and_true, Bool.true_and, Bool.not_eq_true', Bool.and_eq_false_iff,
    beq_eq_false_iff_ne, List.isEmpty_eq_false_iff]
  simp only [ne_eq, List.cons.injEq, not_and_or]

theorem IsIdentifierLike.append {cs ds : List Char} (h : IsIdentifierLike cs)
    (hds : ∀ c ∈ ds, isTailChar c = true) : IsIdentifierLike (cs ++ ds) := by
  obtain ⟨⟨c, rest, rfl, hc⟩, htail⟩ := h
  exact ⟨⟨c, rest ++ ds, rfl, hc⟩, List.forall_mem_append.2 ⟨htail, hds⟩⟩

/-- Raw identifiers apart, a name is legal if it is an identifier but no keyword. -/
theorem isLegalName_iff {name : String} (h : IsIdentifierLike name.toList) :
    isLegalName name = true ↔ name ≠ "_" ∧ name ∉ keywords := by
  have hraw : ∀ raw, name.toList ≠ 'r' :: '#' :: raw := by
    intro raw heq
    have hhash := h.tail '#' (by rw [heq]; simp)
    revert hhash
    decide
  have hlone : name.toList ≠ ['_'] ↔ name ≠ "_" := by
    rw [Ne, Ne, ← String.toList_inj]
    exact Iff.rfl
  rw [isLegalName, ← hlone, ← isIdentifier_iff h]
  split
  · rename_i raw heq
    exact absurd heq (hraw raw)
  · rw [Bool.and_eq_true, decide_eq_true_eq]

/-! ## Identifiers of ASCII names -/

theorem isTailChar_of_isSnakeChar : ∀ n : Fin 128, isSnakeChar (Char.ofNat n) = true →
    isTailChar (Char.ofNat n) = true ∧ isTailChar (Char.ofNat n).toUpper = true ∧
      (Char.ofNat n).toUpper.isLower = false := by
  decide

theorem isHeadChar_toUpper : ∀ n : Fin 128, isHeadChar (Char.ofNat n) = true →
    isHeadChar (Char.ofNat n).toUpper = true := by
  decide

theorem snakeChar_cases {c : Char} (h : isSnakeChar c = true) :
    isTailChar c = true ∧ isTailChar c.toUpper = true ∧ c.toUpper.isLower = false := by
  obtain ⟨n, rfl⟩ := exists_fin_of_isAscii (isAscii_of_isSnakeChar h)
  exact isTailChar_of_isSnakeChar n h

theorem guardLeadingDigit_head (cs : List Char) :
    ∃ c rest, guardLeadingDigit cs = c :: rest ∧ isHeadChar c = true := by
  cases cs with
  | nil => exact ⟨'_', [], rfl, by decide⟩
  | cons c rest =>
    rw [guardLeadingDigit]
    split
    · rename_i hc
      exact ⟨c, rest, rfl, by rw [isHeadChar, hc]; rfl⟩
    · exact ⟨'_', c :: rest, rfl, by decide⟩

variable {name : String}

theorem isIdentifierLike_snakeChars (h : IsAsciiName name) :
    IsIdentifierLike (snakeChars name.toList) :=
  ⟨guardLeadingDigit_head _, fun c hc => (snakeChar_cases (isSnakeChar_of_mem h c hc)).1⟩

theorem isIdentifierLike_screamingChars (h : IsAsciiName name) :
    IsIdentifierLike (screamingChars name.toList) := by
  obtain ⟨⟨c, rest, hsnake, hc⟩, -⟩ := isIdentifierLike_snakeChars h
  have hmem : c ∈ snakeChars name.toList := hsnake ▸ List.mem_cons_self
  rw [screamingChars_ascii h]
  refine ⟨⟨c.toUpper, rest.map Char.toUpper, by rw [hsnake]; rfl, ?_⟩, fun d hd => ?_⟩
  · obtain ⟨n, rfl⟩ := exists_fin_of_isAscii (isAscii_of_isSnakeChar (isSnakeChar_of_mem h c hmem))
    exact isHeadChar_toUpper n hc
  · obtain ⟨e, he, rfl⟩ := List.mem_map.1 hd
    exact (snakeChar_cases (isSnakeChar_of_mem h e he)).2.1

/-! ## Keywords -/

/-- What keywords look like, of which names of other shapes are told apart. -/
structure LooksReserved (k : String) : Prop where
  lower : ∃ c ∈ k.toList, c.isLower = true
  plain : '_' ∉ k.toList
  tail : k.toList.tail.all Char.isLower = true
  front : ∀ role : Role, role.typePrefix.toList.head? ≠ k.toList.head?

theorem looksReserved_of_mem {k : String} (h : k ∈ keywords) : LooksReserved k := by
  have hall : ∀ k ∈ keywords, (k.toList.any Char.isLower = true ∧ '_' ∉ k.toList) ∧
      k.toList.tail.all Char.isLower = true ∧
      ∀ role ∈ [Role.insert, .replace, .delete],
        role.typePrefix.toList.head? ≠ k.toList.head? := by
    decide +kernel
  obtain ⟨⟨hlower, hplain⟩, htail, hfront⟩ := hall k h
  exact ⟨List.any_eq_true.1 hlower, hplain, htail, fun role => hfront role (by cases role <;> decide)⟩

/-- Every keyword holds a lower-case letter. -/
theorem screamingSnakeCase_not_keyword (h : IsAsciiName name) :
    screamingSnakeCase name ∉ keywords := by
  intro hmem
  obtain ⟨c, hc, hlower⟩ := (looksReserved_of_mem hmem).lower
  rw [screamingSnakeCase, String.toList_ofList, screamingChars_ascii h] at hc
  obtain ⟨d, hd, rfl⟩ := List.mem_map.1 hc
  rw [(snakeChar_cases (isSnakeChar_of_mem h d hd)).2.2] at hlower
  cases hlower

/-- **A constant is legal exactly if its name holds a letter or a digit.** -/
theorem isLegalName_screaming_iff (h : IsAsciiName name) :
    isLegalName (screamingSnakeCase name) = true ↔ HasWord name := by
  have hlike : IsIdentifierLike (screamingSnakeCase name).toList := by
    rw [screamingSnakeCase, String.toList_ofList]
    exact isIdentifierLike_screamingChars h
  rw [isLegalName_iff hlike, Ne, screamingSnakeCase_eq_underscore_iff h, not_not]
  exact and_iff_left (screamingSnakeCase_not_keyword h)

/-- A keyword is escaped in one of two ways, and what comes of it is legal. -/
theorem keywords_escaped : keywords.all (fun k => k ∈ pathKeywords || k ∈ rawKeywords) = true ∧
    pathKeywords.all (fun k => isLegalName (k ++ "_")) = true ∧
    rawKeywords.all (fun k => isLegalName ("r#" ++ k)) = true := by
  decide +kernel

/-- **A field or a module is legal exactly if its name holds a letter or a digit.** -/
theorem isLegalName_field_iff (h : IsAsciiName name) :
    isLegalName (fieldIdentifier name) = true ↔ HasWord name := by
  have hlike : IsIdentifierLike (snakeCase name).toList := by
    rw [toList_snakeCase]
    exact isIdentifierLike_snakeChars h
  have hword : snakeCase name ≠ "_" ↔ HasWord name := by
    rw [Ne, snakeCase_eq_underscore_iff h, not_not]
  rw [← hword, fieldIdentifier, escapeKeyword]
  split
  · rename_i hpath
    have hne : ∀ k ∈ pathKeywords, k ≠ "_" := by decide
    exact iff_of_true (List.all_eq_true.1 keywords_escaped.2.1 _ hpath) (hne _ hpath)
  split
  · rename_i hraw
    have hne : ∀ k ∈ rawKeywords, k ≠ "_" := by decide
    exact iff_of_true (List.all_eq_true.1 keywords_escaped.2.2 _ hraw) (hne _ hraw)
  · rename_i hpath hraw
    rw [isLegalName_iff hlike]
    refine and_iff_left fun hmem => ?_
    have hescaped := List.all_eq_true.1 keywords_escaped.1 _ hmem
    simp [hpath, hraw] at hescaped

/-! ## Names of several parts -/

theorem exists_capitalize {w : List Char} (h : w ≠ [] ∧ ∀ c ∈ w, isWordChar c = true) :
    ∃ c rest, isWordChar c = true ∧ (∀ d ∈ rest, isWordChar d = true) ∧
      capitalize w = c.toUpper :: rest := by
  obtain ⟨c, rest, rfl⟩ := List.exists_cons_of_ne_nil h.1
  obtain ⟨hc, hrest⟩ := List.forall_mem_cons.1 h.2
  refine ⟨c, rest, hc, hrest, ?_⟩
  rw [capitalize, uppercase, if_pos (isAscii_of_isSnakeChar (isSnakeChar_of_isWordChar hc))]
  rfl

theorem isTailChar_of_mem_upperCamel (h : IsAsciiName name) :
    ∀ c ∈ upperCamelChars name.toList, isTailChar c = true := by
  refine forall_mem_guardLeadingDigit (by decide) fun c hc => ?_
  obtain ⟨w, hw, hmem⟩ := List.mem_flatMap.1 hc
  obtain ⟨d, rest, hd, hrest, heq⟩ := exists_capitalize (isWordChar_of_mem_words h w hw)
  rw [heq] at hmem
  rcases List.mem_cons.1 hmem with rfl | hmem
  · exact (snakeChar_cases (isSnakeChar_of_isWordChar hd)).2.1
  · exact (snakeChar_cases (isSnakeChar_of_isWordChar (hrest c hmem))).1

/-- A name in upper camel case begins with a capital or an underscore. -/
theorem exists_upperCamel_head (h : IsAsciiName name) : ∃ c rest,
    upperCamelChars name.toList = c :: rest ∧ isHeadChar c = true ∧ c.isLower = false := by
  rw [upperCamelChars]
  have hwords := isWordChar_of_mem_words h
  cases hnames : words name.toList with
  | nil => exact ⟨'_', [], rfl, by decide, by decide⟩
  | cons w ws =>
    rw [hnames] at hwords
    obtain ⟨c, rest, hc, -, heq⟩ := exists_capitalize (hwords w List.mem_cons_self)
    rw [List.flatMap_cons, heq, List.cons_append, guardLeadingDigit]
    split
    · rename_i halpha
      exact ⟨_, _, rfl, by rw [isHeadChar, halpha]; rfl,
        (snakeChar_cases (isSnakeChar_of_isWordChar hc)).2.2⟩
    · exact ⟨'_', _, rfl, by decide, by decide⟩

theorem isIdentifierLike_upperCamel (h : IsAsciiName name) :
    IsIdentifierLike (upperCamelChars name.toList) := by
  obtain ⟨c, rest, hcamel, hc, -⟩ := exists_upperCamel_head h
  exact ⟨⟨c, rest, hcamel, hc⟩, isTailChar_of_mem_upperCamel h⟩

/-- No keyword holds an underscore. -/
theorem isLegalName_functionName (role : Role) {t : Table} (h : IsAsciiName t.name) :
    isLegalName (functionName role t) = true := by
  have hfront : IsIdentifierLike role.functionPrefix.toList ∧
      '_' ∈ role.functionPrefix.toList := by
    cases role <;>
      exact ⟨⟨⟨_, _, rfl, by decide⟩, List.all_eq_true.1 (by decide)⟩, by decide⟩
  have hunderscore : '_' ∈ (functionName role t).toList := by
    rw [functionName, String.toList_append]
    exact List.mem_append_left _ hfront.2
  have hlike : IsIdentifierLike (functionName role t).toList := by
    rw [functionName, String.toList_append, toList_snakeCase]
    exact hfront.1.append (isIdentifierLike_snakeChars h).tail
  refine (isLegalName_iff hlike).2 ⟨functionName_ne (by rintro ⟨⟩ <;> decide) role t, fun hmem => ?_⟩
  exact (looksReserved_of_mem hmem).plain hunderscore

/-- No keyword begins like the name of a struct. -/
theorem isLegalName_structName (role : Role) {t : Table} (h : IsAsciiName t.name) :
    isLegalName (structName role t) = true := by
  have hfront : IsIdentifierLike role.typePrefix.toList := by
    cases role <;> exact ⟨⟨_, _, rfl, by decide⟩, List.all_eq_true.1 (by decide)⟩
  have hlike : IsIdentifierLike (structName role t).toList := by
    rw [structName, String.toList_append, String.toList_append, upperCamelCase,
      String.toList_ofList]
    exact (hfront.append (isTailChar_of_mem_upperCamel h)).append
      (List.all_eq_true.1 (by decide))
  refine (isLegalName_iff hlike).2 ⟨structName_ne (by rintro ⟨⟩ <;> decide) role t, fun hmem => ?_⟩
  exact structName_ne (fun r => (looksReserved_of_mem hmem).front r) role t rfl

/-- A keyword goes on in lower case, and a variant does not where the name of its column begins. -/
theorem isLegalName_variant {t : Table} {c : Column} (ht : IsAsciiName t.name)
    (hc : IsAsciiName c.name) : isLegalName (variant t c) = true := by
  obtain ⟨d, front, htable, -, -⟩ := exists_upperCamel_head ht
  obtain ⟨e, behind, hcolumn, -, hlower⟩ := exists_upperCamel_head hc
  have hlist : (variant t c).toList =
      upperCamelChars t.name.toList ++ upperCamelChars c.name.toList := by
    rw [variant, String.toList_append, upperCamelCase, upperCamelCase, String.toList_ofList,
      String.toList_ofList]
  have hlike : IsIdentifierLike (variant t c).toList := by
    rw [hlist]
    exact (isIdentifierLike_upperCamel ht).append (isTailChar_of_mem_upperCamel hc)
  refine (isLegalName_iff hlike).2 ⟨fun heq => ?_, fun hmem => ?_⟩
  · have hlength := congrArg (fun s => s.toList.length) heq
    rw [hlist, htable, hcolumn] at hlength
    simp at hlength
  · have htail := (looksReserved_of_mem hmem).tail
    rw [hlist, htable, hcolumn, List.cons_append, List.tail_cons, List.all_append, List.all_cons,
      hlower, Bool.false_and, Bool.and_false] at htail
    cases htail

end Tablewright.Naming
