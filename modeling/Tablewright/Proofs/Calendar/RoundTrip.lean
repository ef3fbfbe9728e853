import Tablewright.Calendar.Reading
import Tablewright.Proofs.Calendar.Order
import Tablewright.Proofs.Sql.Evaluation
import Tablewright.Proofs.Text.Runs

/-!
# Timestamps read back

A timestamp that was written is read back as what was written (`read_written`). So it is read back
with its milliseconds, in every year that is represented and with its leap second, if it is one
(`read_toText`). Only if its nanoseconds are counted on in the midst of a minute it is read back in
the next second (`written_of_not_isValid`).
-/

namespace Tablewright.Timestamp

/-! ## Steps of reading -/

variable {α β : Type}

theorem run_bind_of_ok {r : Reader α} {f : α → Reader β} {cs rest : List Char} {a : α}
    (h : r.run cs = .ok (a, rest)) : (r >>= f).run cs = (f a).run rest := by
  rw [StateT.run_bind, h]
  rfl

/-- The digits of a number are read as the number. -/
theorem digitsValue_eq {cs : List Char} {n : Nat} (h : Nat.ofDigitChars 10 cs n ≤ greatestNumber) :
    digitsValue n cs = .ok (Nat.ofDigitChars 10 cs n) := by
  induction cs generalizing n with
  | nil => rfl
  | cons c cs ih =>
    rw [Nat.ofDigitChars_cons] at h ⊢
    have hle : 10 * n + (c.toNat - '0'.toNat) ≤ greatestNumber := by
      refine Nat.le_trans ?_ h
      rw [Nat.ofDigitChars_eq_ofDigitChars_zero]
      exact Nat.le_trans (Nat.le_mul_of_pos_left _ (Nat.pow_pos (by decide))) (Nat.le_add_right _ _)
    rw [digitsValue, if_pos hle, ih h]

/-- What stops a number: that it may not be longer, or another character. -/
def StopsDigits (most length : Nat) (rest : List Char) : Prop :=
  length = most ∨ length ≤ most ∧ ∀ c ∈ rest.head?, c.isDigit = false

theorem take_takeWhile_digits {most : Nat} {ds rest : List Char} (h : ∀ c ∈ ds, c.isDigit = true)
    (hstop : StopsDigits most ds.length rest) :
    ((ds ++ rest).take most).takeWhile Char.isDigit = ds := by
  have hlength : ds.length ≤ most := by
    rcases hstop with h | ⟨h, -⟩ <;> omega
  have hrest : (rest.take (most - ds.length)).takeWhile Char.isDigit = [] := by
    rcases hstop with hmost | ⟨-, hhead⟩
    · rw [hmost, Nat.sub_self, List.take_zero]
      rfl
    · cases rest with
      | nil => rw [List.take_nil]; rfl
      | cons c cs =>
        cases most - ds.length with
        | zero => rfl
        | succ k => simp [hhead c rfl]
  rw [List.take_append, List.take_of_length_le hlength, List.takeWhile_append_of_pos h, hrest,
    List.append_nil]

theorem run_digits {most w n : Nat} {rest : List Char}
    (hstop : StopsDigits most (padded w n).length rest) (hn : n ≤ greatestNumber) :
    (digits most).run (padded w n ++ rest) = .ok (n, rest) := by
  have hdigits : ∀ c ∈ padded w n, c.isDigit = true := fun _ => isDigit_of_mem_padded
  have hspelling := take_takeWhile_digits hdigits hstop
  have hvalue : digitsValue 0 (padded w n) = .ok n := by
    rw [digitsValue_eq (by rwa [ofDigitChars_padded]), ofDigitChars_padded]
  have hpos := length_padded_pos w n
  generalize padded w n = ds at *
  cases ds with
  | nil => cases hpos
  | cons c ds =>
    change (if c.isDigit then _ else _) = _
    rw [if_pos (hdigits c (by simp)), hspelling, hvalue, ok_bind, List.drop_left]
    rfl

theorem isBlank_of_isDigit {c : Char} (h : c.isDigit = true) : Text.isBlank c = false := by
  have hc := toNat_of_isDigit h
  rw [Text.isBlank, Text.inRanges, Text.blankRanges]
  simp
  omega

theorem dropBlank_padded (w n : Nat) (rest : List Char) :
    Text.dropBlank (padded w n ++ rest) = padded w n ++ rest :=
  Text.dropBlank_append (fun _ hc => isBlank_of_isDigit (isDigit_of_mem_padded hc))
    (List.ne_nil_of_length_pos (length_padded_pos w n)) rest

/-- A number is read with its width. -/
theorem run_number {w n : Nat} {rest : List Char} (hw : 0 < w) (h : n < 10 ^ w)
    (hn : n ≤ greatestNumber) : (number w).run (padded w n ++ rest) = .ok (n, rest) := by
  have hdrop : (modify Text.dropBlank : Reader Unit).run (padded w n ++ rest) =
      .ok ((), Text.dropBlank (padded w n ++ rest)) := rfl
  rw [dropBlank_padded] at hdrop
  rw [number, run_bind_of_ok hdrop]
  exact run_digits (.inl (length_padded hw h)) hn

theorem run_numberWithin {low high n : Nat} {rest : List Char} (hlow : low ≤ n) (hhigh : n ≤ high)
    (h : n < 10 ^ 2) : (numberWithin low high).run (padded 2 n ++ rest) = .ok (n, rest) := by
  have hn : n ≤ greatestNumber := by
    unfold greatestNumber
    omega
  rw [numberWithin, run_bind_of_ok (run_number (by decide) h hn)]
  simp only [hlow, hhigh, decide_true, Bool.and_self, if_true]
  rfl

theorem run_character (c : Char) (rest : List Char) :
    (character c).run (c :: rest) = .ok ((), rest) :=
  if_pos rfl

/-! ## The parts of a timestamp -/

theorem run_checkYear {year : Int} (hfirst : Date.firstYear ≤ year) (hlast : year ≤ Date.lastYear)
    (cs : List Char) : (checkYear year).run cs = .ok (year, cs) := by
  have hrange : (decide (-2147483648 ≤ year) && decide (year ≤ 2147483647)) = true := by
    unfold Date.firstYear at hfirst
    unfold Date.lastYear at hlast
    rw [Bool.and_eq_true, decide_eq_true_eq, decide_eq_true_eq]
    omega
  rw [checkYear, if_pos hrange]
  rfl

theorem run_get (cs : List Char) : (get : Reader (List Char)).run cs = .ok (cs, cs) := rfl

theorem run_readYear_minus (ds : List Char) :
    readYear.run ('-' :: ds) = (digits ds.length >>= fun n => checkYear (-n)).run ds := by
  rfl

theorem run_readYear_plus (ds : List Char) :
    readYear.run ('+' :: ds) = (digits ds.length >>= fun n => checkYear n).run ds := by
  rfl

theorem run_readYear_digits (n : Nat) (rest : List Char) :
    readYear.run (padded 4 n ++ rest) =
      (digits 4 >>= fun n => checkYear n).run (padded 4 n ++ rest) := by
  have hdrop : (modify Text.dropBlank : Reader Unit).run (padded 4 n ++ rest) =
      .ok ((), Text.dropBlank (padded 4 n ++ rest)) := rfl
  rw [dropBlank_padded] at hdrop
  rw [readYear, run_bind_of_ok hdrop, run_bind_of_ok (run_get _)]
  have hdigits : ∀ c ∈ padded 4 n, c.isDigit = true := fun _ => isDigit_of_mem_padded
  have hpos := length_padded_pos 4 n
  generalize padded 4 n = ds at *
  cases ds with
  | nil => cases hpos
  | cons c ds =>
    have hc := hdigits c (by simp)
    rw [List.cons_append]
    split
    · rename_i h
      cases h
      cases hc
    · rename_i h
      cases h
      cases hc
    · rfl

/-- A year is read back up to the dash behind it. -/
theorem run_readYear {year : Int} (hfirst : Date.firstYear ≤ year) (hlast : year ≤ Date.lastYear)
    (rest : List Char) : readYear.run (yearText year ++ '-' :: rest) = .ok (year, '-' :: rest) := by
  have hn : year.natAbs ≤ greatestNumber := by
    unfold greatestNumber Date.firstYear Date.lastYear at *
    omega
  have hsigned : (digits (padded 4 year.natAbs ++ '-' :: rest).length).run
      (padded 4 year.natAbs ++ '-' :: rest) = .ok (year.natAbs, '-' :: rest) := by
    refine run_digits (.inr ⟨?_, fun c hc => ?_⟩) hn
    · rw [List.length_append]
      omega
    · cases hc
      rfl
  have hcheck := run_checkYear hfirst hlast ('-' :: rest)
  rw [yearText]
  by_cases hnegative : year < 0
  · have habs : -(year.natAbs : Int) = year := by omega
    rw [if_pos hnegative, List.cons_append, run_readYear_minus, run_bind_of_ok hsigned, habs, hcheck]
  have habs : (year.natAbs : Int) = year := by omega
  rw [if_neg hnegative]
  by_cases hplain : year ≤ 9999
  · have hwidth : (padded 4 year.natAbs).length = 4 :=
      length_padded (by decide) (show year.natAbs < 10 ^ 4 by omega)
    rw [if_pos hplain, run_readYear_digits, run_bind_of_ok (run_digits (.inl hwidth) hn), habs,
      hcheck]
  · rw [if_neg hplain, List.cons_append, run_readYear_plus, run_bind_of_ok hsigned, habs, hcheck]

theorem run_readMilliseconds {a b c : Char} {n : Nat} (hdigits : [a, b, c].all Char.isDigit = true)
    (hvalue : digitsValue 0 [a, b, c] = .ok n) :
    readMilliseconds.run [a, b, c] = .ok (n, []) := by
  have hlength : ¬byteLength [a, b, c] < 3 := by
    have ha := a.utf8Size_pos
    have hb := b.utf8Size_pos
    have hc := c.utf8Size_pos
    have : byteLength [a, b, c] = 0 + a.utf8Size + b.utf8Size + c.utf8Size := rfl
    omega
  have htake : ([a, b, c].take 3).all Char.isDigit = true := hdigits
  rw [readMilliseconds, run_bind_of_ok (run_get _), if_neg hlength]
  simp only [htake, Bool.not_true, Bool.false_eq_true, if_false]
  change (digitsValue 0 [a, b, c] >>= fun n => .ok (n, [])) = _
  rw [hvalue]
  rfl

theorem run_readFraction {n : Nat} (h : n < 1000) :
    readFraction.run ('.' :: padded 3 n) = .ok (n, []) := by
  have hlength : (padded 3 n).length = 3 := length_padded (by decide) h
  have hdigits : (padded 3 n).all Char.isDigit = true :=
    List.all_eq_true.2 fun _ => isDigit_of_mem_padded
  have hvalue : digitsValue 0 (padded 3 n) = .ok n := by
    have hn : n ≤ greatestNumber := by
      unfold greatestNumber
      omega
    rw [digitsValue_eq (by rwa [ofDigitChars_padded]), ofDigitChars_padded]
  generalize padded 3 n = ds at *
  match ds, hlength with
  | [a, b, c], _ => exact run_readMilliseconds hdigits hvalue

theorem run_readEnd : readEnd.run [] = .ok ((), []) := rfl

/-- The timestamp that the text of a timestamp spells. -/
def written (t : Timestamp) : Timestamp :=
  ofParts t.date t.hour t.minute t.writtenSecond t.millisecond

/-- **A timestamp is read back as it was written.** -/
theorem read_written {t : Timestamp} (h : t.IsRepresentable) :
    read t.toText = .ok (t.written) := by
  obtain ⟨hfirst, hlast, hmonth₁, hmonth₂, hday₁, hday₂⟩ := h.date.bounds
  have hsecond : t.writtenSecond ≤ 60 := h.writtenSecond_le
  have hhour := h.hour
  have hminute := h.minute
  have hrun : reader.run t.toText.toList =
      .ok (t.written, []) := by
    rw [toText, String.toList_ofList]
    simp only [List.append_assoc, List.cons_append]
    rw [reader, run_bind_of_ok (run_readYear hfirst hlast _), run_bind_of_ok (run_character _ _),
      run_bind_of_ok (run_numberWithin hmonth₁ hmonth₂ (by omega)),
      run_bind_of_ok (run_character _ _),
      run_bind_of_ok (run_numberWithin hday₁ hday₂ (by omega)),
      run_bind_of_ok (run_character _ _),
      run_bind_of_ok (run_numberWithin (by omega) (by omega) (by omega)),
      run_bind_of_ok (run_character _ _),
      run_bind_of_ok (run_numberWithin (by omega) (by omega) (by omega)),
      run_bind_of_ok (run_character _ _),
      run_bind_of_ok (run_numberWithin (by omega) (by omega) (by omega)),
      run_bind_of_ok (run_readFraction t.millisecond_lt), run_bind_of_ok run_readEnd]
    have hdate : (⟨t.date.year, t.date.month, t.date.day⟩ : Date).isRepresented = true := h.date
    simp only [hdate, if_true]
    rfl
  rw [read, hrun]
  rfl

theorem written_eq_cut {t : Timestamp} (h : t.IsValid) : t.written = t.cut := by
  have hnanosecond := h.nanosecond
  have hsecond := h.second
  obtain ⟨date, hour, minute, second, nanosecond⟩ := t
  rw [written, ofParts]
  split
  · rename_i hleap
    simp only [writtenSecond, millisecond, Timestamp.cut, nanosecondsPerSecond,
      nanosecondsPerMillisecond] at *
    rw [Timestamp.mk.injEq]
    refine ⟨rfl, rfl, rfl, ?_, ?_⟩ <;> omega
  · rename_i hplain
    simp only [writtenSecond, millisecond, Timestamp.cut, nanosecondsPerSecond,
      nanosecondsPerMillisecond] at *
    rw [Timestamp.mk.injEq]
    refine ⟨rfl, rfl, rfl, ?_, ?_⟩ <;> omega

/-- Nanoseconds that are counted on in the midst of a minute are written with the next second. -/
theorem written_of_not_isValid {t : Timestamp} (h : t.IsRepresentable) (hodd : ¬t.IsValid) :
    t.written = { t.cut with
      second := t.second + 1, nanosecond := t.cut.nanosecond - nanosecondsPerSecond } := by
  have hnanosecond := h.nanosecond
  have hcounted : nanosecondsPerSecond ≤ t.nanosecond ∧ t.second ≠ 59 := by
    refine Decidable.by_contra fun hcontra => hodd ⟨h.date, h.hour, h.minute, h.second, ?_⟩
    omega
  have hsecond := h.second
  obtain ⟨date, hour, minute, second, nanosecond⟩ := t
  simp only [nanosecondsPerSecond] at hnanosecond hcounted hsecond
  have hwritten : writtenSecond ⟨date, hour, minute, second, nanosecond⟩ = second + 1 := by
    simp only [writtenSecond, nanosecondsPerSecond]
    omega
  have hnot : ¬second + 1 = 60 := by omega
  rw [written, ofParts, hwritten, if_neg hnot, Timestamp.mk.injEq]
  simp only [millisecond, Timestamp.cut, nanosecondsPerSecond, nanosecondsPerMillisecond]
  refine ⟨trivial, trivial, trivial, trivial, ?_⟩
  omega

/-- **A timestamp is read back with its milliseconds.** -/
theorem read_toText {t : Timestamp} (h : t.IsValid) : read t.toText = .ok t.cut := by
  rw [read_written h.isRepresentable, written_eq_cut h]

end Tablewright.Timestamp
