import Tablewright.AccessModule.Literal
import Tablewright.Json.Reader
import Tablewright.Proofs.Text.Runs

/-!
# String literals read back

How the language of the generated code reads a string literal (`readLiteral`): a raw literal
(`readRaw`) ends at the first quote with as many hashes behind it as stood in front, and takes
everything up to there as it is; an ordinary literal (`readOrdinary`) ends at the first quote that no
backslash escapes. Neither holds a bare carriage return. The literal that embeds a text is read back
as that text, up to its end and no further (`readLiteral_literal`).
-/

namespace Tablewright.AccessModule

open Text

/-- What a reader answers: the text of a literal, and what follows the literal. -/
abbrev LiteralText := Option (List Char × List Char)

/-- The text with one more character in front. -/
def LiteralText.push (c : Char) (read : LiteralText) : LiteralText :=
  read.map fun r => (c :: r.1, r.2)

/-! ## Raw literals -/

/-- Take off so many hashes. -/
def dropHashes? : Nat → List Char → Option (List Char)
  | 0, cs => some cs
  | n + 1, c :: rest => if c == '#' then dropHashes? n rest else none
  | _ + 1, [] => none

/-- Read a raw literal behind its opening quote, in front of which stood so many hashes. -/
def readRaw (hashes : Nat) : List Char → LiteralText
  | [] => none
  | c :: rest =>
    if c == '\r' then none
    else if c == '"' then
      match dropHashes? hashes rest with
      | some after => some ([], after)
      | none => (readRaw hashes rest).push c
    else (readRaw hashes rest).push c

theorem dropHashes?_replicate (n : Nat) (rest : List Char) :
    dropHashes? n (List.replicate n '#' ++ rest) = some rest := by
  induction n with
  | zero => rfl
  | succ n ih => exact ih

/-- Too few hashes, and then a quote, do not make up the hashes of a literal. -/
theorem dropHashes?_eq_none {n : Nat} {text : List Char} (h : leadingHashes text < n)
    (rest : List Char) : dropHashes? n (text ++ '"' :: rest) = none := by
  induction n generalizing text with
  | zero => exact absurd h (Nat.not_lt_zero _)
  | succ n ih =>
    cases text with
    | nil => rfl
    | cons c text =>
      rw [List.cons_append, dropHashes?]
      split
      · rename_i hc
        have hlength : leadingHashes (c :: text) = leadingHashes text + 1 := by
          simp [leadingHashes, hc]
        exact ih (by omega)
      · rfl

/-- **A raw literal is read back** if it has as many hashes as its text needs. No quote of the text
ends it, not even one with all hashes up to the end of the text behind it: the quote that follows
them is no hash. -/
theorem readRaw_append {n : Nat} {text : List Char} (hn : hashesNeeded text ≤ n)
    (hreturn : '\r' ∉ text) (rest : List Char) :
    readRaw n (text ++ '"' :: (List.replicate n '#' ++ rest)) = some (text, rest) := by
  induction text with
  | nil => simp [readRaw, dropHashes?_replicate]
  | cons c text ih =>
    obtain ⟨hc, htext⟩ : ¬c = '\r' ∧ '\r' ∉ text := by simpa [eq_comm] using hreturn
    rw [hashesNeeded] at hn
    rw [List.cons_append, readRaw, beq_eq_false_iff_ne.2 hc]
    split at hn
    · rename_i hquote
      have hnone : dropHashes? n (text ++ '"' :: (List.replicate n '#' ++ rest)) = none :=
        dropHashes?_eq_none (by omega) _
      simp only [hquote, hnone, ih (by omega) htext]
      rfl
    · rename_i hquote
      simp only [hquote, ih hn htext]
      rfl

/-! ## Ordinary literals -/

/-- The character that a backslash and a letter stand for. -/
def letterEscape? : Char → Option Char
  | 'n' => some '\n'
  | 'r' => some '\r'
  | 't' => some '\t'
  | '0' => some '\x00'
  | '\\' => some '\\'
  | '\'' => some '\''
  | '"' => some '"'
  | _ => none

/-- The number that hexadecimal digits spell. -/
def hexNumber? (digits : List Char) : Option Nat :=
  digits.foldlM (fun n c => (Json.hexDigit? c).map (16 * n + ·)) 0

/-- The character of two hexadecimal digits, an ASCII one. -/
def byteEscape? (high low : Char) : Option Char := do
  let n ← hexNumber? [high, low]
  if n < 128 then some (Char.ofNat n) else none

/-- The character of a code point in braces: one to six hexadecimal digits, and underscores behind
the first. -/
def codePointEscape? (inside : List Char) : Option Char := do
  let digits := inside.filter (· != '_')
  if digits.isEmpty || 6 < digits.length || inside.head? = some '_' then none
  let n ← hexNumber? digits
  if n.isValidChar then some (Char.ofNat n) else none

/-- Where a reader stands in an ordinary literal. -/
inductive LiteralPlace
  /-- In its text, and `skipping` the white space behind an escaped line feed. -/
  | text (skipping : Bool)
  /-- Behind a backslash. -/
  | escape
  /-- Behind `\x` and perhaps a digit. -/
  | byte (high : Option Char)
  /-- Behind `\u`. -/
  | codePoint
  /-- Inside the braces of a code point, behind what was read of them. -/
  | braces (inside : List Char)

/-- Read an ordinary literal from a place in it. -/
def readOrdinary : LiteralPlace → List Char → LiteralText
  | _, [] => none
  | .text skipping, c :: rest =>
    if skipping && Json.isSpace c then readOrdinary (.text true) rest
    else if c == '"' then some ([], rest)
    else if c == '\\' then readOrdinary .escape rest
    else if c == '\r' then none
    else (readOrdinary (.text false) rest).push c
  | .escape, c :: rest =>
    match letterEscape? c with
    | some d => (readOrdinary (.text false) rest).push d
    | none =>
      if c == 'x' then readOrdinary (.byte none) rest
      else if c == 'u' then readOrdinary .codePoint rest
      else if c == '\n' then readOrdinary (.text true) rest
      else none
  | .byte none, c :: rest => readOrdinary (.byte (some c)) rest
  | .byte (some high), c :: rest =>
    (byteEscape? high c).bind fun d => (readOrdinary (.text false) rest).push d
  | .codePoint, c :: rest => if c == '\x7b' then readOrdinary (.braces []) rest else none
  | .braces inside, c :: rest =>
    if c == '\x7d' then
      (codePointEscape? inside).bind fun d => (readOrdinary (.text false) rest).push d
    else readOrdinary (.braces (inside ++ [c])) rest

/-- Read a string literal: its text, and what follows it. -/
def readLiteral : List Char → LiteralText
  | '"' :: rest => readOrdinary (.text false) rest
  | 'r' :: rest =>
    match rest.dropWhile (· == '#') with
    | '"' :: body => readRaw (rest.takeWhile (· == '#')).length body
    | _ => none
  | _ => none

/-! ## Hexadecimal digits -/

theorem hexDigit?_digitChar {d : Nat} (h : d < 16) : Json.hexDigit? d.digitChar = some d := by
  have : ∀ d : Fin 16, Json.hexDigit? (Nat.digitChar d) = some d.val := by decide
  exact this ⟨d, h⟩

/-- The digits of a number spell it. -/
theorem hexNumber?_toDigits (n : Nat) : hexNumber? (Nat.toDigits 16 n) = some n := by
  induction n using Nat.strongRecOn with
  | ind n ih =>
    by_cases h : n < 16
    · simp [Nat.toDigits_of_lt_base h, hexNumber?, hexDigit?_digitChar h]
    · have hfront : hexNumber? (Nat.toDigits 16 (n / 16)) = some (n / 16) :=
        ih (n / 16) (by omega)
      have hlast : Json.hexDigit? (n % 16).digitChar = some (n % 16) :=
        hexDigit?_digitChar (by omega)
      rw [Nat.toDigits_of_base_le (by decide) (by omega), hexNumber?, List.foldlM_append,
        ← hexNumber?, hfront]
      simp only [Option.bind_eq_bind, Option.bind_some, List.foldlM_cons, List.foldlM_nil, hlast,
        Option.map_some, Option.pure_def, Option.some.injEq]
      omega

theorem hexDigit?_of_mem_toDigits {n : Nat} {c : Char} (h : c ∈ Nat.toDigits 16 n) :
    (Json.hexDigit? c).isSome := by
  induction n using Nat.strongRecOn with
  | ind n ih =>
    by_cases hn : n < 16
    · rw [Nat.toDigits_of_lt_base hn, List.mem_singleton] at h
      rw [h, hexDigit?_digitChar hn]
      rfl
    · rw [Nat.toDigits_of_base_le (by decide) (by omega), List.mem_append, List.mem_singleton] at h
      rcases h with h | rfl
      · exact ih (n / 16) (by omega) h
      · rw [hexDigit?_digitChar (by omega)]
        rfl

theorem ne_of_hexDigit? {c d : Char} (hc : (Json.hexDigit? c).isSome)
    (hd : Json.hexDigit? d = none) : c ≠ d := by
  rintro rfl
  rw [hd] at hc
  cases hc

/-- The digits of a character's code point are read as the character. -/
theorem codePointEscape?_toDigits (c : Char) :
    codePointEscape? (Nat.toDigits 16 c.toNat) = some c := by
  have hunderscore : '_' ∉ Nat.toDigits 16 c.toNat := fun h =>
    ne_of_hexDigit? (hexDigit?_of_mem_toDigits h) (by decide) rfl
  have hfilter : (Nat.toDigits 16 c.toNat).filter (· != '_') = Nat.toDigits 16 c.toNat := by
    rw [List.filter_eq_self]
    intro d hd
    rw [bne_iff_ne]
    rintro rfl
    exact hunderscore hd
  have hlength : (Nat.toDigits 16 c.toNat).length ≤ 6 := by
    rw [Nat.length_toDigits_le_iff (by decide) (by decide)]
    have : c.toNat < 1114112 := by
      rcases c.valid with h | ⟨-, h⟩
      · exact Nat.lt_trans h (by decide)
      · exact h
    omega
  have hhead : ¬(Nat.toDigits 16 c.toNat).head? = some '_' := fun h =>
    hunderscore (List.mem_of_head? h)
  have hvalid : c.toNat.isValidChar := c.valid
  simp only [codePointEscape?, hfilter, hexNumber?_toDigits]
  rw [if_neg]
  · change (if c.toNat.isValidChar then some (Char.ofNat c.toNat) else none) = some c
    rw [if_pos hvalid, Char.ofNat_toNat]
  · simp only [Bool.or_eq_true, decide_eq_true_eq, List.isEmpty_iff, not_or, Nat.not_lt]
    exact ⟨⟨Nat.toDigits_ne_nil, hlength⟩, hhead⟩

/-! ## Quoted text -/

theorem readOrdinary_braces {digits : List Char} (h : '\x7d' ∉ digits) (inside rest : List Char) :
    readOrdinary (.braces inside) (digits ++ '\x7d' :: rest) =
      (codePointEscape? (inside ++ digits)).bind fun d =>
        (readOrdinary (.text false) rest).push d := by
  induction digits generalizing inside with
  | nil => rw [List.append_nil]; rfl
  | cons c digits ih =>
    obtain ⟨hc, hdigits⟩ : ¬c = '\x7d' ∧ '\x7d' ∉ digits := by simpa [eq_comm] using h
    rw [List.cons_append, readOrdinary, beq_eq_false_iff_ne.2 hc]
    exact (ih hdigits _).trans (by rw [List.append_assoc]; rfl)

/-- A character that is written by its code point is read back. -/
theorem readOrdinary_codePoint (c : Char) (rest : List Char) :
    readOrdinary (.text false) (("\\u\x7b" ++ hex c.toNat ++ "\x7d").toList ++ rest) =
      (readOrdinary (.text false) rest).push c := by
  have hclose : '\x7d' ∉ Nat.toDigits 16 c.toNat := fun h =>
    ne_of_hexDigit? (hexDigit?_of_mem_toDigits h) (by decide) rfl
  have htext : ("\\u\x7b" ++ hex c.toNat ++ "\x7d").toList ++ rest =
      '\\' :: 'u' :: '\x7b' :: (Nat.toDigits 16 c.toNat ++ '\x7d' :: rest) := by
    simp [hex]
  have hread := readOrdinary_braces hclose [] rest
  rw [List.nil_append, codePointEscape?_toDigits] at hread
  rw [htext]
  exact hread

/-- **What stands for a character is read back as the character.** -/
theorem readOrdinary_quoteChar (c : Char) (rest : List Char) :
    readOrdinary (.text false) ((quoteChar c).toList ++ rest) =
      (readOrdinary (.text false) rest).push c := by
  unfold quoteChar
  split
  case h_7 _ _ hreturn _ hbackslash hquote =>
    split
    · exact readOrdinary_codePoint c rest
    · have htext : c.toString.toList ++ rest = c :: rest := by simp
      rw [htext, readOrdinary]
      simp only [Bool.false_and, Bool.false_eq_true, if_false, beq_eq_false_iff_ne.2 hquote,
        beq_eq_false_iff_ne.2 hbackslash, beq_eq_false_iff_ne.2 hreturn]
  all_goals rfl

theorem readOrdinary_quoteChars (text rest : List Char) :
    readOrdinary (.text false) ((text.flatMap fun c => (quoteChar c).toList) ++ '"' :: rest) =
      some (text, rest) := by
  induction text with
  | nil => rfl
  | cons c text ih =>
    rw [List.flatMap_cons, List.append_assoc, readOrdinary_quoteChar, ih]
    rfl

/-! ## Literals -/

theorem readLiteral_quote (text : String) (rest : List Char) :
    readLiteral ((quote text).toList ++ rest) = some (text.toList, rest) := by
  have htext : (quote text).toList ++ rest =
      '"' :: ((text.toList.flatMap fun c => (quoteChar c).toList) ++ '"' :: rest) := by
    simp [quote, String.toList_join, List.flatMap_map]
  rw [htext]
  exact readOrdinary_quoteChars text.toList rest

theorem readLiteral_rawLiteral {text : String} (h : '\r' ∉ text.toList) (rest : List Char) :
    readLiteral ((rawLiteral text).toList ++ rest) = some (text.toList, rest) := by
  have htext : (rawLiteral text).toList ++ rest =
      'r' :: (List.replicate (hashesNeeded text.toList) '#' ++
        '"' :: (text.toList ++ '"' :: (List.replicate (hashesNeeded text.toList) '#' ++ rest))) := by
    simp [rawLiteral]
  have hhashes : ∀ c ∈ List.replicate (hashesNeeded text.toList) '#', (c == '#') = true :=
    fun c hc => beq_iff_eq.2 (List.eq_of_mem_replicate hc)
  have hquote {after : List Char} : ('"' :: after).head?.all (fun c => !(c == '#')) = true := rfl
  rw [htext, readLiteral]
  simp only [takeWhile_append_of_all hhashes hquote, dropWhile_append_of_all hhashes hquote,
    List.length_replicate]
  exact readRaw_append (Nat.le_refl _) h rest

/-- **The literal that embeds a text is read back as the text.** -/
theorem readLiteral_literal (text : String) (rest : List Char) :
    readLiteral ((literal text).toList ++ rest) = some (text.toList, rest) := by
  rw [literal]
  split
  · exact readLiteral_quote text rest
  · rename_i h
    exact readLiteral_rawLiteral h rest

/-- Escapes that no literal of a text has are read as well. -/
example : readLiteral "\"a\\x41\\u\x7b1_F600\x7d\\\n   b\";".toList = some ("aA😀b".toList, [';']) := by
  decide

end Tablewright.AccessModule
