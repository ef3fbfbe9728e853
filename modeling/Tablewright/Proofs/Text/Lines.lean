import Mathlib.Data.List.Basic
import Tablewright.Text.Lines

/-!
# The lines of joined lines

Lines that are joined by line feeds are the lines of the text, one by one, but for a carriage
return at the end of a line and for an empty line at the end (`lines_intercalate_cons`). A text that
is empty or ends in a line feed has its lines whatever follows it (`lines_append`).
-/

namespace Tablewright.Text

/-- A line without the carriage return at its end. -/
def dropReturn (line : List Char) : List Char :=
  if line.getLast? = some '\r' then line.dropLast else line

theorem dropReturn_cons (c : Char) {line : List Char} (h : line ≠ []) :
    dropReturn (c :: line) = c :: dropReturn line := by
  obtain ⟨d, ds, rfl⟩ := List.exists_cons_of_ne_nil h
  rw [dropReturn, dropReturn, List.getLast?_cons_cons, List.dropLast_cons_cons]
  split <;> rfl

theorem splitLines_cons {c : Char} {rest : List Char} (hc : c ≠ '\n')
    (hrest : c = '\r' → rest.head? ≠ some '\n') :
    splitLines (c :: rest) = consFirst c (splitLines rest) := by
  refine splitLines.eq_4 c rest hc fun after hreturn hafter => ?_
  exact hrest hreturn (by rw [hafter, List.head?_cons])

/-- A line is cut off up to its line feed. -/
theorem splitLines_append {line : List Char} (h : '\n' ∉ line) (rest : List Char) :
    splitLines (line ++ '\n' :: rest) = dropReturn line :: splitLines rest := by
  induction line with
  | nil => rfl
  | cons c line ih =>
    rw [List.mem_cons, not_or] at h
    obtain ⟨hc, hline⟩ := h
    cases line with
    | nil =>
      by_cases hreturn : c = '\r'
      · subst hreturn
        rfl
      · have hkeep : dropReturn [c] = [c] := if_neg (by simpa using hreturn)
        rw [hkeep, List.singleton_append, splitLines_cons (Ne.symm hc) fun h => absurd h hreturn]
        rfl
    | cons d ds =>
      have hd : d ≠ '\n' := fun h => hline (by simp [h])
      rw [List.cons_append, splitLines_cons (Ne.symm hc) fun _ => by simpa using hd, ih hline,
        dropReturn_cons c (List.cons_ne_nil d ds)]
      rfl

/-- What follows the last line feed is a line unless it is empty. -/
theorem splitLines_of_not_mem {line : List Char} (h : '\n' ∉ line) (hne : line ≠ []) :
    splitLines line = [line] := by
  induction line with
  | nil => contradiction
  | cons c line ih =>
    rw [List.mem_cons, not_or] at h
    obtain ⟨hc, hline⟩ := h
    have hhead : line.head? ≠ some '\n' := fun hhead => hline (List.mem_of_mem_head? hhead)
    rw [splitLines_cons (Ne.symm hc) fun _ => hhead]
    cases line with
    | nil => rfl
    | cons d ds => rw [ih hline (List.cons_ne_nil d ds)]; rfl

/-- What a line ends with, nothing at the end of a text. -/
def lineEndings : List (List Char) :=
  [[], ['\n'], ['\r', '\n']]

/-- A text consists of its first line, the ending of the line, and the other lines. -/
theorem exists_of_splitLines_cons {cs line : List Char} {lines : List (List Char)}
    (h : splitLines cs = line :: lines) : ∃ ending ∈ lineEndings, ∃ rest,
      cs = line ++ (ending ++ rest) ∧ splitLines rest = lines ∧ (ending = [] → rest = []) := by
  by_cases hfeed : '\n' ∈ cs
  · obtain ⟨front, rest, rfl, hfront⟩ := List.eq_append_cons_of_mem hfeed
    rw [splitLines_append hfront, List.cons.injEq] at h
    obtain ⟨rfl, rfl⟩ := h
    by_cases hlast : front.getLast? = some '\r'
    · refine ⟨['\r', '\n'], by simp [lineEndings], rest, ?_, rfl, nofun⟩
      rw [dropReturn, if_pos hlast]
      conv_lhs => rw [← List.dropLast_append_getLast? '\r' hlast]
      simp
    · refine ⟨['\n'], by simp [lineEndings], rest, ?_, rfl, nofun⟩
      rw [dropReturn, if_neg hlast]
      rfl
  · have hne : cs ≠ [] := by
      rintro rfl
      cases h
    rw [splitLines_of_not_mem hfeed hne, List.cons.injEq] at h
    obtain ⟨rfl, rfl⟩ := h
    exact ⟨[], by simp [lineEndings], [], by simp, rfl, fun _ => rfl⟩

/-- A line of a text stands at its beginning or behind a line feed. -/
theorem exists_of_mem_splitLines {cs line : List Char} (h : line ∈ splitLines cs) :
    ∃ front, ∃ ending ∈ lineEndings, ∃ rest, cs = front ++ (line ++ (ending ++ rest)) ∧
      (front = [] ∨ front.getLast? = some '\n') ∧ (ending = [] → rest = []) := by
  induction hlines : splitLines cs generalizing cs with
  | nil => rw [hlines] at h; cases h
  | cons first lines ih =>
    obtain ⟨ending, hending, rest, rfl, hrest, hempty⟩ := exists_of_splitLines_cons hlines
    rw [hlines] at h
    rcases List.mem_cons.1 h with rfl | h
    · exact ⟨[], ending, hending, rest, rfl, .inl rfl, hempty⟩
    · obtain ⟨front, ending', hending', rest', rfl, hfront, hempty'⟩ := ih (hrest ▸ h) hrest
      refine ⟨first ++ (ending ++ front), ending', hending', rest', by simp, .inr ?_, hempty'⟩
      have hfeed : ending.getLast? = some '\n' := by
        simp only [lineEndings, List.mem_cons, List.not_mem_nil, or_false] at hending
        rcases hending with rfl | rfl | rfl
        · have := hempty rfl
          simp only [List.append_eq_nil_iff] at this
          obtain ⟨rfl, rfl, rfl, rfl⟩ := this
          rw [List.append_nil] at hrest
          subst hrest
          cases h
        · rfl
        · rfl
      rw [List.getLast?_append, List.getLast?_append]
      rcases hfront with rfl | hfront
      · simp [hfeed]
      · simp [hfront]

/-- A text that ends in a line feed has the same lines whatever follows it. -/
theorem splitLines_append_of_getLast? {cs : List Char} (h : cs.getLast? = some '\n')
    (ds : List Char) : splitLines (cs ++ ds) = splitLines cs ++ splitLines ds := by
  induction hlength : cs.length using Nat.strongRecOn generalizing cs with
  | ind n ih =>
    obtain ⟨line, rest, rfl, hline⟩ := List.eq_append_cons_of_mem (List.mem_of_getLast? h)
    rw [List.append_assoc, List.cons_append, splitLines_append hline, splitLines_append hline,
      List.cons_append]
    congr 1
    cases rest with
    | nil => rfl
    | cons c rest =>
      rw [List.getLast?_append_of_ne_nil _ (List.cons_ne_nil _ _), List.getLast?_cons_cons] at h
      refine ih (c :: rest).length ?_ h rfl
      simp only [← hlength, List.length_append, List.length_cons]
      omega

/-- **The lines of whole lines stand in front of those of whatever follows.** -/
theorem lines_append {a : String} (h : a = "" ∨ a.toList.getLast? = some '\n') (b : String) :
    lines (a ++ b) = lines a ++ lines b := by
  rw [lines, lines, lines, String.toList_append, ← List.map_append]
  obtain rfl | h := h
  · simp [splitLines]
  · rw [splitLines_append_of_getLast? h]

/-- What a line may be read as: itself, or without the carriage return at its end. -/
def IsReadAs (line read : String) : Prop :=
  read = line ∨ read ++ "\r" = line

theorem isReadAs_dropReturn (line : String) :
    IsReadAs line (String.ofList (dropReturn line.toList)) := by
  rw [dropReturn]
  split
  · rename_i hlast
    refine .inr ?_
    rw [← String.toList_inj, String.toList_append, String.toList_ofList]
    exact List.dropLast_append_getLast? '\r' hlast
  · exact .inl String.ofList_toList

/-- **The first of joined lines is read**, unless it is empty and the last one. -/
theorem lines_intercalate_cons {line : String} (h : '\n' ∉ line.toList) (rest : List String) :
    (lines ("\n".intercalate (line :: rest)) = lines ("\n".intercalate rest) ∧ line = "") ∨
      ∃ read, IsReadAs line read ∧
        lines ("\n".intercalate (line :: rest)) = read :: lines ("\n".intercalate rest) := by
  cases rest with
  | nil =>
    by_cases hempty : line = ""
    · exact .inl ⟨by rw [hempty]; rfl, hempty⟩
    · refine .inr ⟨line, .inl rfl, ?_⟩
      have hne : line.toList ≠ [] := by simpa using hempty
      rw [String.intercalate_singleton, lines, splitLines_of_not_mem h hne]
      simp [lines, splitLines]
  | cons next rest =>
    refine .inr ⟨_, isReadAs_dropReturn line, ?_⟩
    rw [String.intercalate_cons_cons, lines, String.toList_append, String.toList_append]
    have hfeed : "\n".toList = ['\n'] := by simp
    rw [hfeed, List.append_assoc, List.singleton_append, splitLines_append h, List.map_cons]
    rfl

theorem intercalate_cons {α : Type} (separator first : List α) (others : List (List α)) :
    List.intercalate separator (first :: others) =
      first ++ others.flatMap fun item => separator ++ item := by
  induction others generalizing first with
  | nil => simp [List.intercalate_singleton]
  | cons second others ih => rw [List.intercalate_cons_cons, ih]; simp

/-- The characters of joined lines, each with a line feed in front. -/
theorem toList_intercalate_lines {lines : List String} (hne : lines ≠ []) :
    '\n' :: ("\n".intercalate lines).toList = lines.flatMap fun line => '\n' :: line.toList := by
  obtain ⟨first, others, rfl⟩ := List.exists_cons_of_ne_nil hne
  rw [String.toList_intercalate, List.map_cons, intercalate_cons, List.flatMap_cons, List.flatMap_map]
  rfl

end Tablewright.Text
