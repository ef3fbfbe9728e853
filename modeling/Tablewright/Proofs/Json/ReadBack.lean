import Mathlib.Data.List.Forall2
import Tablewright.Json.Reader
import Tablewright.Json.Writer

/-!
# Written JSON is read back

What the writer makes of a value is read as that value, whatever follows it (`Reads`), provided that
the value holds texts, truth values, null, and arrays and objects of such (`IsWritable`):
`read?_write`. Strings are read back character by character (`readString_writeChar`), lists item by
item (`readItems_joined`, `readMembers_joined`). The length of a text bounds the recursion of its
reading.
-/

namespace Tablewright.Json

/-! ## White space -/

/-- White space only. -/
def IsGap (w : List Char) : Prop :=
  ∀ c ∈ w, isSpace c = true

theorem isGap_newline (level : Nat) : IsGap (newline level).toList := by
  intro c hc
  simp only [newline, String.toList_append, String.toList_ofList, List.mem_append] at hc
  rcases hc with hc | hc
  · obtain rfl : c = '\n' := by simpa using hc
    rfl
  · obtain rfl : c = ' ' := List.eq_of_mem_replicate hc
    rfl

theorem skipSpace_append {w : List Char} (h : IsGap w) (cs : List Char) :
    skipSpace (w ++ cs) = skipSpace cs :=
  List.dropWhile_append_of_pos h

theorem skipSpace_cons {c : Char} (h : isSpace c = false) (cs : List Char) :
    skipSpace (c :: cs) = c :: cs := by
  rw [skipSpace, List.dropWhile_cons, h]
  rfl

theorem readValue_append {w : List Char} (h : IsGap w) (fuel : Nat) (cs : List Char) :
    readValue fuel (w ++ cs) = readValue fuel cs := by
  cases fuel with
  | zero => simp [readValue]
  | succ fuel => rw [readValue, readValue, skipSpace_append h]

theorem readItems_append {w : List Char} (h : IsGap w) (fuel : Nat) (cs : List Char) :
    readItems fuel (w ++ cs) = readItems fuel cs := by
  cases fuel with
  | zero => simp [readItems]
  | succ fuel => rw [readItems, readItems, readValue_append h]

theorem readMembers_append {w : List Char} (h : IsGap w) (fuel : Nat) (cs : List Char) :
    readMembers fuel (w ++ cs) = readMembers fuel cs := by
  cases fuel with
  | zero => simp [readMembers]
  | succ fuel => rw [readMembers, readMembers, skipSpace_append h]

/-! ## Strings -/

theorem readString_plain {c : Char} (hquote : c ≠ '"') (hslash : c ≠ '\\') (hc : ¬c.toNat < 0x20)
    (rest : List Char) : readString (c :: rest) = (readString rest).map (addChar c) := by
  rw [readString.eq_def]
  split
  case h_5 heq =>
    obtain ⟨rfl, rfl⟩ := List.cons.inj heq
    rw [if_neg hc]
  all_goals simp_all

theorem readString_escape {e c : Char} (h : simpleEscape? e = some c) (rest : List Char) :
    readString ('\\' :: e :: rest) = (readString rest).map (addChar c) := by
  have hu : e ≠ 'u' := by
    rintro rfl
    cases h
  rw [readString.eq_def]
  split
  case h_5 hnone heq =>
    obtain ⟨rfl, rfl⟩ := List.cons.inj heq
    exact absurd rfl (hnone e rest rfl)
  all_goals simp_all

theorem readString_letter (s : String) (e : Char) {c : Char} (hs : s = String.ofList ['\\', e])
    (h : simpleEscape? e = some c) (rest : List Char) :
    readString (s.toList ++ rest) = (readString rest).map (addChar c) := by
  rw [hs, String.toList_ofList]
  exact readString_escape h rest

/-- An escape of four digits, of a character that is no surrogate. -/
theorem readString_unicode {a b c d : Char} {n : Nat} (h : hex4? a b c d = some n) (hn : n < 0xD800)
    (rest : List Char) : readString ('\\' :: 'u' :: a :: b :: c :: d :: rest) =
      (readString rest).map (addChar (Char.ofNat n)) := by
  have hhigh : isHighSurrogate n = false := by
    simp [isHighSurrogate]
    omega
  have hlow : isLowSurrogate n = false := by
    simp [isLowSurrogate]
    omega
  rw [readString, h]
  simp [hhigh, hlow]

/-- The characters of an escape of four digits, and what they stand for. -/
def unicodeEscape? : List Char → Option Nat
  | ['\\', 'u', a, b, c, d] => hex4? a b c d
  | _ => none

theorem unicodeEscape?_control : ∀ n : Fin 0x20,
    unicodeEscape? (unicodeEscape (Char.ofNat n)).toList = some n.val := by
  decide +kernel

theorem readString_control {c : Char} (hc : c.toNat < 0x20) (rest : List Char) :
    readString ((unicodeEscape c).toList ++ rest) = (readString rest).map (addChar c) := by
  have hescape := unicodeEscape?_control ⟨c.toNat, hc⟩
  rw [Char.ofNat_toNat] at hescape
  generalize (unicodeEscape c).toList = cs at hescape ⊢
  unfold unicodeEscape? at hescape
  split at hescape
  · have hread := readString_unicode hescape (Nat.lt_trans hc (by decide)) rest
    rwa [Char.ofNat_toNat] at hread
  · cases hescape

/-- **A character that was written is read back.** -/
theorem readString_writeChar (c : Char) (rest : List Char) :
    readString ((writeChar c).toList ++ rest) = (readString rest).map (addChar c) := by
  fun_cases writeChar c with
  | case1 => exact readString_letter "\\\"" '"' rfl rfl rest
  | case2 => exact readString_letter "\\\\" '\\' rfl rfl rest
  | case3 => exact readString_letter "\\b" 'b' rfl rfl rest
  | case4 => exact readString_letter "\\f" 'f' rfl rfl rest
  | case5 => exact readString_letter "\\n" 'n' rfl rfl rest
  | case6 => exact readString_letter "\\r" 'r' rfl rfl rest
  | case7 => exact readString_letter "\\t" 't' rfl rfl rest
  | case8 _ _ _ _ _ _ _ _ hcontrol => exact readString_control hcontrol rest
  | case9 _ hquote hslash _ _ _ _ _ hplain =>
    rw [Char.toString, String.toList_singleton]
    exact readString_plain hquote hslash hplain rest

theorem readString_writeChars (cs rest : List Char) :
    readString (cs.flatMap (fun c => (writeChar c).toList) ++ '"' :: rest) = some (some cs, rest) := by
  induction cs with
  | nil => rw [List.flatMap_nil, List.nil_append, readString]
  | cons c cs ih =>
    rw [List.flatMap_cons, List.append_assoc, readString_writeChar, ih]
    rfl

theorem toList_writeText (s : String) : (writeText s).toList =
    '"' :: (s.toList.flatMap (fun c => (writeChar c).toList) ++ ['"']) := by
  rw [writeText, String.toList_append, String.toList_append, String.toList_join, List.flatMap_map]
  rfl

/-- **A text that was written is read back.** -/
theorem readText_writeText (s : String) (rest : List Char) :
    readText ((writeText s).toList ++ rest) = some (some s, rest) := by
  rw [toList_writeText, List.cons_append, List.append_assoc, readText]
  simp only [List.singleton_append, readString_writeChars]
  simp

/-! ## Values -/

/-- A text is read as a value, whatever follows it. -/
structure Reads (cs : List Char) (v : Json) : Prop where
  read : ∀ fuel, cs.length ≤ fuel → ∀ rest, readValue fuel (cs ++ rest) = some (v, rest)
  /-- It does not begin as a gap or the end of a list. -/
  head : ∃ c rest, cs = c :: rest ∧ isSpace c = false ∧ c ≠ ']'

theorem Reads.of_cons (c : Char) (cs : List Char) {v : Json} (hspace : isSpace c = false)
    (hend : c ≠ ']')
    (h : ∀ fuel, cs.length ≤ fuel → ∀ rest, readValue (fuel + 1) (c :: (cs ++ rest)) = some (v, rest)) :
    Reads (c :: cs) v := by
  refine ⟨fun fuel hfuel rest => ?_, c, cs, rfl, hspace, hend⟩
  obtain ⟨n, rfl⟩ : ∃ n, fuel = n + 1 := ⟨fuel - 1, by rw [List.length_cons] at hfuel; omega⟩
  exact h n (Nat.le_of_succ_le_succ hfuel) rest

theorem reads_null : Reads "null".toList null :=
  .of_cons 'n' ['u', 'l', 'l'] rfl (by decide) fun _ _ _ => by
    rw [readValue, skipSpace_cons rfl]
    rfl

theorem reads_bool (b : Bool) : Reads (if b then "true" else "false").toList (bool b) := by
  cases b with
  | true =>
    exact .of_cons 't' ['r', 'u', 'e'] rfl (by decide) fun _ _ _ => by
      rw [readValue, skipSpace_cons rfl]
      rfl
  | false =>
    exact .of_cons 'f' ['a', 'l', 's', 'e'] rfl (by decide) fun _ _ _ => by
      rw [readValue, skipSpace_cons rfl]
      rfl

theorem reads_text (s : String) : Reads (writeText s).toList (ofText s) := by
  rw [toList_writeText]
  refine .of_cons _ _ rfl (by decide) fun fuel _ rest => ?_
  rw [readValue, skipSpace_cons rfl]
  have hread := readText_writeText s rest
  rw [toList_writeText, List.cons_append] at hread
  simp only [hread]
  rfl

/-! ## Lists -/

/-- Items that were written between commas are read back, up to the bracket behind them. -/
theorem readItems_joined {w w' : List Char} (hw : IsGap w) (hw' : IsGap w') {texts : List (List Char)}
    {items : List Json} (h : List.Forall₂ Reads texts items) (hne : texts ≠ []) (fuel : Nat)
    (hfuel : ((',' :: w).intercalate texts).length < fuel) (rest : List Char) :
    readItems fuel ((',' :: w).intercalate texts ++ (w' ++ ']' :: rest)) = some (items, rest) := by
  induction h generalizing fuel with
  | nil => exact absurd rfl hne
  | @cons t v texts items ht hrest ih =>
    obtain ⟨n, rfl⟩ : ∃ n, fuel = n + 1 := ⟨fuel - 1, by omega⟩
    cases hrest with
    | nil =>
      rw [List.intercalate_singleton] at hfuel ⊢
      rw [readItems, ht.read n (by omega)]
      simp [skipSpace_append hw']
      rfl
    | cons hu hus =>
      rw [List.intercalate_cons_cons, List.length_append, List.length_append, List.length_cons]
        at hfuel
      rw [List.intercalate_cons_cons, List.append_assoc, List.append_assoc, readItems,
        ht.read n (by omega)]
      have hread := ih (List.cons_ne_nil _ _) n (by omega)
      simp only [List.cons_append, skipSpace_cons (c := ',') rfl, readItems_append hw, hread,
        bind, Option.bind, Option.map_some]

/-- The text of a member. -/
def memberText (key : String) (value : List Char) : List Char :=
  (writeText key).toList ++ ':' :: ' ' :: value

/-- A text is read as a member. -/
def ReadsMember (cs : List Char) (m : String × Json) : Prop :=
  ∃ value, cs = memberText m.1 value ∧ Reads value m.2

theorem length_memberText (key : String) (value : List Char) :
    value.length + 2 ≤ (memberText key value).length := by
  simp [memberText]

/-- A member is read up to what stands behind its value. -/
theorem readMembers_member {m : String × Json} {value : List Char} (h : Reads value m.2) {fuel : Nat}
    (hfuel : value.length ≤ fuel) {c : Char} {rest behind : List Char}
    (hbehind : skipSpace behind = c :: rest) :
    (c = ',' → readMembers (fuel + 1) (memberText m.1 value ++ behind) =
        (readMembers fuel rest).map fun r => ((some m.1, m.2) :: r.1, r.2)) ∧
      (c = '\x7d' → readMembers (fuel + 1) (memberText m.1 value ++ behind) =
        some ([(some m.1, m.2)], rest)) := by
  have hskip : skipSpace (memberText m.1 value ++ behind) = memberText m.1 value ++ behind := by
    rw [memberText, toList_writeText, List.cons_append, List.cons_append, skipSpace_cons rfl]
  have hgap : IsGap [' '] := by
    intro c hc
    rw [List.mem_singleton.1 hc]
    rfl
  have hvalue : readValue fuel (' ' :: (value ++ behind)) = some (m.2, behind) :=
    (readValue_append hgap fuel (value ++ behind)).trans (h.read fuel hfuel behind)
  rw [readMembers, hskip, memberText, List.append_assoc, readText_writeText]
  constructor
  · rintro rfl
    simp [skipSpace_cons (c := ':') rfl, hvalue, hbehind]
  · rintro rfl
    simp [skipSpace_cons (c := ':') rfl, hvalue, hbehind]

/-- Members that were written between commas are read back, up to the brace behind them. -/
theorem readMembers_joined {w w' : List Char} (hw : IsGap w) (hw' : IsGap w')
    {texts : List (List Char)} {fields : List (String × Json)}
    (h : List.Forall₂ ReadsMember texts fields) (hne : texts ≠ []) (fuel : Nat)
    (hfuel : ((',' :: w).intercalate texts).length < fuel) (rest : List Char) :
    readMembers fuel ((',' :: w).intercalate texts ++ (w' ++ '\x7d' :: rest)) =
      some (fields.map fun f => (some f.1, f.2), rest) := by
  induction h generalizing fuel with
  | nil => exact absurd rfl hne
  | @cons t m texts fields ht hrest ih =>
    obtain ⟨n, rfl⟩ : ∃ n, fuel = n + 1 := ⟨fuel - 1, by omega⟩
    obtain ⟨value, rfl, hvalue⟩ := ht
    have hlength := length_memberText m.1 value
    cases hrest with
    | nil =>
      rw [List.intercalate_singleton] at hfuel ⊢
      have hbehind : skipSpace (w' ++ '\x7d' :: rest) = '\x7d' :: rest := by
        rw [skipSpace_append hw', skipSpace_cons rfl]
      exact (readMembers_member hvalue (by omega) hbehind).2 rfl
    | cons hu hus =>
      rw [List.intercalate_cons_cons, List.length_append, List.length_append, List.length_cons]
        at hfuel
      rw [List.intercalate_cons_cons, List.append_assoc, List.append_assoc, List.cons_append,
        (readMembers_member hvalue (by omega) (skipSpace_cons rfl _)).1 rfl, readMembers_append hw,
        ih (List.cons_ne_nil _ _) n (by omega)]
      rfl

/-! ## Brackets -/

theorem readValue_array {w cs : List Char} {c : Char} {fuel : Nat} {items : List Json}
    {rest : List Char} (hw : IsGap w) (hspace : isSpace c = false) (hend : c ≠ ']')
    (h : readItems fuel (c :: cs) = some (items, rest)) :
    readValue (fuel + 1) ('[' :: (w ++ c :: cs)) = some (array items, rest) := by
  rw [readValue, skipSpace_cons rfl]
  simp [skipSpace_append hw, skipSpace_cons hspace, hend, h]

theorem readValue_object {w cs : List Char} {c : Char} {fuel : Nat}
    {members : List (Option String × Json)} {rest : List Char} (hw : IsGap w)
    (hspace : isSpace c = false) (hend : c ≠ '\x7d')
    (h : readMembers fuel (c :: cs) = some (members, rest)) :
    readValue (fuel + 1) ('\x7b' :: (w ++ c :: cs)) = some (object members, rest) := by
  rw [readValue, skipSpace_cons rfl]
  simp [skipSpace_append hw, skipSpace_cons hspace, hend, h]

theorem toList_bracketed_nil (opening closing : String) (level : Nat) :
    (bracketed opening closing level []).toList = opening.toList ++ closing.toList :=
  String.toList_append

theorem toList_bracketed (opening closing : String) (level : Nat) {texts : List String}
    (hne : texts ≠ []) : (bracketed opening closing level texts).toList =
      opening.toList ++ ((newline (level + 1)).toList ++
        ((',' :: (newline (level + 1)).toList).intercalate (texts.map String.toList) ++
          ((newline level).toList ++ closing.toList))) := by
  have hempty : texts.isEmpty = false := List.isEmpty_eq_false_iff.2 hne
  rw [bracketed, hempty]
  simp [String.toList_intercalate, List.append_assoc]

theorem prettyItems_eq_map (level : Nat) (items : List Json) :
    prettyItems level items = items.map (pretty level) := by
  induction items with
  | nil => rfl
  | cons item rest ih => rw [prettyItems, ih, List.map_cons]

theorem prettyMembers_eq_map (level : Nat) (members : List (Option String × Json)) :
    prettyMembers level members = members.map (prettyMember level) := by
  induction members with
  | nil => rfl
  | cons member rest ih => rw [prettyMembers, ih, List.map_cons]

/-- Joined texts begin as the first of them does. -/
theorem exists_joined_eq_cons (sep : List Char) {texts : List (List Char)} {P : Char → Prop}
    (h : ∀ t ∈ texts, ∃ c cs, t = c :: cs ∧ P c) (hne : texts ≠ []) :
    ∃ c cs, sep.intercalate texts = c :: cs ∧ P c := by
  obtain ⟨t, texts, rfl⟩ := List.exists_cons_of_ne_nil hne
  obtain ⟨c, cs, rfl, hc⟩ := h t List.mem_cons_self
  cases texts with
  | nil => exact ⟨c, cs, List.intercalate_singleton, hc⟩
  | cons u us => exact ⟨c, _, by rw [List.intercalate_cons_cons]; rfl, hc⟩

/-- **An array is read back if its items are.** -/
theorem reads_array {level : Nat} {items : List Json}
    (h : ∀ v ∈ items, Reads (pretty (level + 1) v).toList v) :
    Reads (pretty level (array items)).toList (array items) := by
  rw [pretty, prettyItems_eq_map]
  by_cases hne : items = []
  · subst hne
    rw [List.map_nil, toList_bracketed_nil]
    refine .of_cons '[' [']'] rfl (by decide) fun fuel _ rest => ?_
    rw [readValue, skipSpace_cons rfl]
    rfl
  have hreads : List.Forall₂ Reads ((items.map (pretty (level + 1))).map String.toList) items := by
    rw [List.map_map, List.forall₂_map_left_iff, List.forall₂_same]
    exact h
  have hheads : ∀ t ∈ (items.map (pretty (level + 1))).map String.toList,
      ∃ c cs, t = c :: cs ∧ isSpace c = false ∧ c ≠ ']' := by
    simp only [List.mem_map]
    rintro _ ⟨_, ⟨v, hv, rfl⟩, rfl⟩
    exact (h v hv).head
  obtain ⟨c, cs, hjoined, hspace, hend⟩ :=
    exists_joined_eq_cons (',' :: (newline (level + 1)).toList) hheads (by simpa using hne)
  rw [toList_bracketed _ _ _ (by simpa using hne)]
  refine .of_cons '[' _ rfl (by decide) fun fuel hfuel rest => ?_
  have hitems := readItems_joined (isGap_newline (level + 1)) (isGap_newline level) hreads
    (by simpa using hne) fuel (by simp at hfuel ⊢; omega) rest
  rw [hjoined] at hitems ⊢
  simpa using readValue_array (isGap_newline (level + 1)) hspace hend hitems

theorem toList_prettyMember (level : Nat) (m : String × Json) :
    (prettyMember level (some m.1, m.2)).toList = memberText m.1 (pretty level m.2).toList := by
  rw [prettyMember, String.toList_append, String.toList_append, memberText, List.append_assoc]
  rfl

/-- **An object is read back if the values of its members are.** -/
theorem reads_object {level : Nat} {fields : List (String × Json)}
    (h : ∀ f ∈ fields, Reads (pretty (level + 1) f.2).toList f.2) :
    Reads (pretty level (ofFields fields)).toList (ofFields fields) := by
  rw [ofFields, pretty, prettyMembers_eq_map, List.map_map]
  by_cases hne : fields = []
  · subst hne
    rw [List.map_nil, toList_bracketed_nil]
    refine .of_cons '\x7b' ['\x7d'] rfl (by decide) fun fuel _ rest => ?_
    rw [readValue, skipSpace_cons rfl]
    rfl
  have hreads : List.Forall₂ ReadsMember
      ((fields.map (prettyMember (level + 1) ∘ fun f => (some f.1, f.2))).map String.toList)
      fields := by
    rw [List.map_map, List.forall₂_map_left_iff, List.forall₂_same]
    exact fun f hf => ⟨_, toList_prettyMember (level + 1) f, h f hf⟩
  have hheads : ∀ t ∈ (fields.map (prettyMember (level + 1) ∘ fun f => (some f.1, f.2))).map
      String.toList, ∃ c cs, t = c :: cs ∧ c = '"' := by
    simp only [List.mem_map]
    rintro _ ⟨_, ⟨f, hf, rfl⟩, rfl⟩
    rw [Function.comp_apply, toList_prettyMember, memberText, toList_writeText]
    exact ⟨_, _, rfl, rfl⟩
  obtain ⟨c, cs, hjoined, rfl⟩ :=
    exists_joined_eq_cons (',' :: (newline (level + 1)).toList) hheads (by simpa using hne)
  rw [toList_bracketed _ _ _ (by simpa using hne)]
  refine .of_cons '\x7b' _ rfl (by decide) fun fuel hfuel rest => ?_
  have hmembers := readMembers_joined (isGap_newline (level + 1)) (isGap_newline level) hreads
    (by simpa using hne) fuel (by simp at hfuel ⊢; omega) rest
  rw [hjoined] at hmembers ⊢
  simpa using readValue_object (isGap_newline (level + 1)) rfl (by decide) hmembers

/-! ## Whole texts -/

/-- Values whose texts are read back: those without numbers and without strings that spell no
text. -/
inductive IsWritable : Json → Prop
  | null : IsWritable null
  | bool (b : Bool) : IsWritable (bool b)
  | text (s : String) : IsWritable (ofText s)
  | array {items : List Json} (h : ∀ v ∈ items, IsWritable v) : IsWritable (array items)
  | object {fields : List (String × Json)} (h : ∀ f ∈ fields, IsWritable f.2) :
    IsWritable (ofFields fields)

theorem IsWritable.reads {v : Json} (h : IsWritable v) (level : Nat) :
    Reads (pretty level v).toList v := by
  induction h generalizing level with
  | null => exact reads_null
  | bool b => exact reads_bool b
  | text s => exact reads_text s
  | array _ ih => exact reads_array fun v hv => ih v hv (level + 1)
  | object _ ih => exact reads_object fun f hf => ih f hf (level + 1)

/-- **What was written is read back.** -/
theorem read?_write {v : Json} (h : IsWritable v) : read? v.write = some v := by
  have hread := (h.reads 0).read (2 * v.write.toList.length + 2) (by rw [write]; omega) []
  rw [List.append_nil, ← write] at hread
  rw [read?, hread]
  rfl

end Tablewright.Json
