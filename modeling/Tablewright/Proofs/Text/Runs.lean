import Tablewright.Text.Blank

/-!
# Runs of characters

A text that begins with a run of characters of one kind, behind which none of this kind follows, is
cut right behind the run (`takeWhile_append_of_all`, `dropWhile_append_of_all`). Nothing is dropped
from a text that does not begin with white space (`dropBlank_append`).
-/

namespace Tablewright.Text

variable {p : Char → Bool} {run rest : List Char}

theorem takeWhile_append_of_all (h : ∀ c ∈ run, p c = true)
    (hr : rest.head?.all (fun c => !p c) = true) : (run ++ rest).takeWhile p = run := by
  rw [List.takeWhile_append_of_pos h]
  cases rest with
  | nil => simp
  | cons d rest => simp_all

theorem dropWhile_append_of_all (h : ∀ c ∈ run, p c = true)
    (hr : rest.head?.all (fun c => !p c) = true) : (run ++ rest).dropWhile p = rest := by
  rw [List.dropWhile_append_of_pos h]
  cases rest with
  | nil => simp
  | cons d rest => simp_all

theorem dropBlank_append (h : ∀ c ∈ run, isBlank c = false) (hne : run ≠ []) (rest : List Char) :
    dropBlank (run ++ rest) = run ++ rest := by
  obtain ⟨c, cs, rfl⟩ := List.exists_cons_of_ne_nil hne
  rw [List.cons_append, dropBlank, List.dropWhile_cons, h c List.mem_cons_self]
  rfl

end Tablewright.Text
