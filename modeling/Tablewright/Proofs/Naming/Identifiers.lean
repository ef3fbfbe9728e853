import Tablewright.Naming.Identifier
import Tablewright.Proofs.AccessModule.SourceReading
import Tablewright.Proofs.Naming.Words

/-!
# Identifiers are names

Whatever characters a name of a schema holds, the identifiers that are made of it hold only
characters that can stand in names, and at least one: the case mappings lead from letters and digits
to such characters (`isNamePart_lowercase`, `isNamePart_uppercase`), in ASCII and beyond. So an
identifier is read as one token where it stands in generated code (`isName_fieldIdentifier`,
`isName_screamingSnakeCase`, `isName_append`).
-/

namespace Tablewright.Naming

open Text AccessModule

/-! ## Case mappings -/

theorem isNamePart_of_not_ascii {c : Char} (h : ¬isAscii c) : isNamePart c = true := by
  have hle : ¬c.toNat < 128 := fun hlt => h (decide_eq_true hlt)
  simp [isNamePart, Nat.le_of_not_lt hle]

/-- Whether a number is a code point, and that of a character that can stand in names. -/
def isNameCode (n : Nat) : Bool :=
  n.isValidChar && isNamePart (Char.ofNat n)

/-- Whether all code points from `n` to `m` are beyond ASCII, on one side of the surrogates. -/
def isForeignRange (n m : Nat) : Bool :=
  128 ≤ n && (m < 0xD800 || (0xDFFF < n && m < 0x110000))

/-- Whether a shift leads to characters that can stand in names. -/
def keepsNames (s : Shift) : Bool :=
  isForeignRange s.2.2.2 (s.2.2.2 + (s.2.1 - s.1)) || (s.1 == s.2.1 && isNameCode s.2.2.2)

theorem lowercaseShifts_keepNames : lowercaseShifts.all keepsNames = true := by
  decide

theorem uppercaseShifts_keepNames : uppercaseShifts.all keepsNames = true := by
  decide

theorem lowercaseExpansions_keepNames :
    lowercaseExpansions.all (fun e => !e.2.isEmpty && e.2.all isNameCode) = true := by
  decide

theorem uppercaseExpansions_keepNames :
    uppercaseExpansions.all (fun e => !e.2.isEmpty && e.2.all isNameCode) = true := by
  decide

theorem toNat_ofNat_of_isValidChar {n : Nat} (h : n.isValidChar) : (Char.ofNat n).toNat = n := by
  have hchar : Char.ofNat n = Char.ofNatAux n h := dif_pos h
  exact congrArg Char.toNat hchar

theorem isNamePart_of_isForeignRange {n m k : Nat} (h : isForeignRange n m = true) (hn : n ≤ k)
    (hm : k ≤ m) : isNamePart (Char.ofNat k) = true := by
  simp only [isForeignRange, Bool.and_eq_true, Bool.or_eq_true, decide_eq_true_eq] at h
  have hvalid : k.isValidChar := by
    rw [Nat.isValidChar]
    omega
  simp [isNamePart, toNat_ofNat_of_isValidChar hvalid, Nat.le_trans h.1 hn]

theorem isNamePart_shifted {shifts : List Shift} (h : shifts.all keepsNames = true) {c : Char}
    (hc : ¬isAscii c) : isNamePart (Char.ofNat (shifted shifts c.toNat)) = true := by
  rw [shifted]
  split
  · rename_i first last step image hfind
    have hkeeps := List.all_eq_true.1 h _ (List.mem_of_find?_eq_some hfind)
    have hcovers := List.find?_some hfind
    simp only [Shift.covers, Bool.and_eq_true, decide_eq_true_eq] at hcovers
    simp only [keepsNames, Bool.or_eq_true, Bool.and_eq_true, beq_iff_eq] at hkeeps
    rcases hkeeps with hkeeps | ⟨rfl, hkeeps⟩
    · exact isNamePart_of_isForeignRange hkeeps (by omega) (by omega)
    · obtain rfl : first = c.toNat := by omega
      simpa using (Bool.and_eq_true _ _ ▸ hkeeps : _ ∧ _).2
  · rw [Char.ofNat_toNat]
    exact isNamePart_of_not_ascii hc

/-- **A case mapping leads to characters that can stand in names**, if its tables do. -/
theorem forall_mem_caseMapping {shifts : List Shift} {expansions : List (Nat × List Nat)}
    (hshifts : shifts.all keepsNames = true)
    (hexpansions : expansions.all (fun e => !e.2.isEmpty && e.2.all isNameCode) = true) {c : Char}
    (hc : ¬isAscii c) : caseMapping shifts expansions c.toNat ≠ [] ∧
      ∀ d ∈ caseMapping shifts expansions c.toNat, isNamePart d = true := by
  rw [caseMapping]
  split
  · rename_i hfind
    have himage := List.all_eq_true.1 hexpansions _ (List.mem_of_find?_eq_some hfind)
    simp only [Bool.and_eq_true, Bool.not_eq_true', List.isEmpty_eq_false_iff, List.all_eq_true,
      isNameCode] at himage
    refine ⟨by simpa using himage.1, fun d hd => ?_⟩
    obtain ⟨n, hn, rfl⟩ := List.mem_map.1 hd
    exact (himage.2 n hn).2
  · refine ⟨List.cons_ne_nil _ _, fun d hd => ?_⟩
    rw [List.mem_singleton.1 hd]
    exact isNamePart_shifted hshifts hc

theorem isNamePart_toLower : ∀ n : Fin 128, isAlphanumeric (Char.ofNat n) = true →
    isNamePart (Char.ofNat n).toLower = true := by
  decide

theorem isNamePart_toUpper : ∀ n : Fin 128, isNamePart (Char.ofNat n) = true →
    isNamePart (Char.ofNat n).toUpper = true := by
  decide

theorem exists_fin_of_isAscii {c : Char} (h : isAscii c) : ∃ n : Fin 128, Char.ofNat n = c :=
  ⟨⟨c.toNat, of_decide_eq_true h⟩, Char.ofNat_toNat c⟩

theorem isNamePart_lowercase {c : Char} (hc : isAlphanumeric c = true) :
    ∀ d ∈ lowercase c, isNamePart d = true := by
  rw [lowercase]
  split
  · rename_i hascii
    obtain ⟨n, rfl⟩ := exists_fin_of_isAscii hascii
    simpa using isNamePart_toLower n hc
  · rename_i hascii
    exact (forall_mem_caseMapping lowercaseShifts_keepNames lowercaseExpansions_keepNames hascii).2

theorem isNamePart_uppercase {c : Char} (hc : isNamePart c = true) :
    uppercase c ≠ [] ∧ ∀ d ∈ uppercase c, isNamePart d = true := by
  rw [uppercase]
  split
  · rename_i hascii
    obtain ⟨n, rfl⟩ := exists_fin_of_isAscii hascii
    simpa using isNamePart_toUpper n hc
  · rename_i hascii
    exact forall_mem_caseMapping uppercaseShifts_keepNames uppercaseExpansions_keepNames hascii

/-! ## Identifiers -/

theorem isNamePart_of_mem_words (name : List Char) :
    ∀ w ∈ words name, w ≠ [] ∧ ∀ d ∈ w, isNamePart d = true :=
  forall_mem_words fun _ _ hc => isNamePart_lowercase hc

theorem guardLeadingDigit_ne_nil (cs : List Char) : guardLeadingDigit cs ≠ [] := by
  cases cs with
  | nil => exact List.cons_ne_nil _ _
  | cons c cs =>
    rw [guardLeadingDigit]
    split <;> exact List.cons_ne_nil _ _

theorem forall_mem_guardLeadingDigit {p : Char → Prop} (hp : p '_') {cs : List Char}
    (h : ∀ c ∈ cs, p c) : ∀ c ∈ guardLeadingDigit cs, p c := by
  rcases guardLeadingDigit_cases cs with hguard | hguard
  · rwa [hguard]
  · rw [hguard]
    exact List.forall_mem_cons.2 ⟨hp, h⟩

theorem isNamePart_snakeChars (name : List Char) : ∀ c ∈ snakeChars name, isNamePart c = true := by
  refine forall_mem_guardLeadingDigit (by decide) fun c hc => ?_
  rcases mem_intercalate hc with rfl | ⟨w, hw, hmem⟩
  · decide
  · exact (isNamePart_of_mem_words name w hw).2 c hmem

theorem isNamePart_upperCamelChars (name : List Char) :
    ∀ c ∈ upperCamelChars name, isNamePart c = true := by
  refine forall_mem_guardLeadingDigit (by decide) fun c hc => ?_
  obtain ⟨w, hw, hmem⟩ := List.mem_flatMap.1 hc
  obtain ⟨hne, hparts⟩ := isNamePart_of_mem_words name w hw
  obtain ⟨d, rest, rfl⟩ := List.exists_cons_of_ne_nil hne
  rcases List.mem_append.1 hmem with hmem | hmem
  · exact (isNamePart_uppercase (hparts d List.mem_cons_self)).2 c hmem
  · exact hparts c (List.mem_cons_of_mem d hmem)

/-- A name may have more characters in front of it and behind. -/
theorem isName_append (front behind : List Char) {cs : List Char}
    (hcs : ∀ c ∈ cs, isNamePart c = true) (hfront : front.all isNamePart = true)
    (hbehind : behind.all isNamePart = true) (hne : front ++ cs ++ behind ≠ []) :
    IsName (front ++ cs ++ behind) := by
  refine isName_of_forall hne fun c hc => ?_
  rw [List.all_eq_true] at hfront hbehind
  rcases List.mem_append.1 hc with hc | hc
  · rcases List.mem_append.1 hc with hc | hc
    · exact hfront c hc
    · exact hcs c hc
  · exact hbehind c hc

theorem isName_screamingSnakeCase (name : String) : IsName (screamingSnakeCase name).toList := by
  have hparts := isNamePart_snakeChars name.toList
  rw [screamingSnakeCase, String.toList_ofList, screamingChars]
  obtain ⟨c, rest, hsnake⟩ := List.exists_cons_of_ne_nil
    (guardLeadingDigit_ne_nil (['_'].intercalate (words name.toList)))
  refine isName_of_forall ?_ fun d hd => ?_
  · rw [← snakeChars] at hsnake
    rw [hsnake, List.flatMap_cons]
    refine List.append_ne_nil_of_left_ne_nil (isNamePart_uppercase (hparts c ?_)).1 _
    rw [hsnake]
    exact List.mem_cons_self
  · obtain ⟨c, hc, hmem⟩ := List.mem_flatMap.1 hd
    exact (isNamePart_uppercase (hparts c hc)).2 d hmem

theorem isName_fieldIdentifier (name : String) : IsName (fieldIdentifier name).toList := by
  have hparts := isNamePart_snakeChars name.toList
  obtain ⟨c, rest, hsnake⟩ := List.exists_cons_of_ne_nil
    (guardLeadingDigit_ne_nil (['_'].intercalate (words name.toList)))
  rw [← snakeChars] at hsnake
  rw [fieldIdentifier]
  rcases escapeKeyword_cases (snakeCase name) with ⟨-, h⟩ | h | h
  · rw [h, String.toList_append, toList_snakeCase]
    simpa using isName_append [] ['_'] hparts rfl rfl (by simp)
  · rw [h, String.toList_append, toList_snakeCase, hsnake]
    exact ⟨c, rest, .inr rfl, hsnake ▸ hparts⟩
  · rw [h, toList_snakeCase, hsnake]
    exact ⟨c, rest, .inl rfl, hsnake ▸ hparts⟩

end Tablewright.Naming
