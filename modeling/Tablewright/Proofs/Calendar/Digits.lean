import Mathlib.Algebra.Group.Nat.Defs
import Tablewright.Calendar.Timestamp
import Tablewright.Proofs.Sql.Comparison

/-!
# Numbers of a fixed width

A number is written with zeros in front of it. It is the number that its digits spell
(`ofDigitChars_padded`), and numbers of the same width compare as their digits do
(`compareLists_padded`).
-/

namespace Tablewright

/-! ## The digits of a number -/

namespace Timestamp

theorem padded_eq (w n : Nat) : padded w n =
    List.replicate (w - (Nat.toDigits 10 n).length) '0' ++ Nat.toDigits 10 n := by
  rw [padded, Nat.toString_eq_repr, Nat.repr_eq_ofList_toDigits, String.toList_ofList]

theorem isDigit_of_mem_padded {w n : Nat} {c : Char} (h : c ∈ padded w n) : c.isDigit = true := by
  rw [padded_eq, List.mem_append] at h
  rcases h with h | h
  · rw [(List.mem_replicate.1 h).2]
    rfl
  · exact Nat.isDigit_of_mem_toDigits (by decide) (by decide) h

theorem length_padded {w n : Nat} (hw : 0 < w) (h : n < 10 ^ w) : (padded w n).length = w := by
  have := (Nat.length_toDigits_le_iff (by decide) hw).2 h
  rw [padded_eq, List.length_append, List.length_replicate]
  omega

theorem length_padded_pos (w n : Nat) : 0 < (padded w n).length := by
  have : 0 < (Nat.toDigits 10 n).length := Nat.length_toDigits_pos
  rw [padded_eq, List.length_append]
  omega

/-- A number is the one that its digits spell. -/
theorem ofDigitChars_padded (w n : Nat) : Nat.ofDigitChars 10 (padded w n) 0 = n := by
  rw [padded_eq, Nat.ofDigitChars_append, Nat.ofDigitChars_replicate_zero, Nat.mul_zero,
    Nat.ofDigitChars_ten_toDigits]

end Timestamp

/-! ## Comparing digits -/

theorem toNat_of_isDigit {c : Char} (h : c.isDigit = true) : 48 ≤ c.toNat ∧ c.toNat ≤ 57 := by
  rw [Char.isDigit, Bool.and_eq_true, decide_eq_true_eq, decide_eq_true_eq] at h
  exact ⟨UInt32.le_iff_toNat_le.1 h.1, UInt32.le_iff_toNat_le.1 h.2⟩

theorem ofDigitChars_cons_zero (c : Char) (cs : List Char) :
    Nat.ofDigitChars 10 (c :: cs) 0 =
      10 ^ cs.length * (c.toNat - 48) + Nat.ofDigitChars 10 cs 0 := by
  rw [Nat.ofDigitChars_cons, Nat.ofDigitChars_eq_ofDigitChars_zero, Nat.mul_zero, Nat.zero_add]
  rfl

theorem ofDigitChars_lt {cs : List Char} (h : ∀ c ∈ cs, c.isDigit = true) :
    Nat.ofDigitChars 10 cs 0 < 10 ^ cs.length := by
  induction cs with
  | nil => exact Nat.one_pos
  | cons c cs ih =>
    have hc := toNat_of_isDigit (h c (by simp))
    have hcs := ih fun d hd => h d (by simp [hd])
    have hhead : 10 ^ cs.length * (c.toNat - 48) ≤ 10 ^ cs.length * 9 :=
      Nat.mul_le_mul_left _ (by omega)
    rw [ofDigitChars_cons_zero, List.length_cons, Nat.pow_succ]
    omega

theorem compare_digit {c d : Char} (hc : c.isDigit = true) (hd : d.isDigit = true) :
    compare c d = compare (c.toNat - 48) (d.toNat - 48) := by
  have hc' := toNat_of_isDigit hc
  have hd' := toNat_of_isDigit hd
  rw [compare_char]
  exact compare_congr (by omega) (by omega)

/-- Digits of the same number compare as the numbers that they spell. -/
theorem compareLists_digits {xs ys : List Char} (hlength : xs.length = ys.length)
    (hx : ∀ c ∈ xs, c.isDigit = true) (hy : ∀ c ∈ ys, c.isDigit = true) :
    compareLists compare xs ys =
      compare (Nat.ofDigitChars 10 xs 0) (Nat.ofDigitChars 10 ys 0) := by
  induction xs generalizing ys with
  | nil =>
    obtain rfl := List.length_eq_zero_iff.1 hlength.symm
    rfl
  | cons x xs ih =>
    cases ys with
    | nil => cases hlength
    | cons y ys =>
      have hxs : ∀ c ∈ xs, c.isDigit = true := fun c hc => hx c (by simp [hc])
      have hys : ∀ c ∈ ys, c.isDigit = true := fun c hc => hy c (by simp [hc])
      have htail : xs.length = ys.length := Nat.succ.inj hlength
      rw [compareLists, compare_digit (hx x (by simp)) (hy y (by simp)), ih htail hxs hys,
        ofDigitChars_cons_zero, ofDigitChars_cons_zero, htail]
      exact (compare_radix (htail ▸ ofDigitChars_lt hxs) (ofDigitChars_lt hys)).symm

theorem compareLists_padded {w a b : Nat} (hw : 0 < w) (ha : a < 10 ^ w) (hb : b < 10 ^ w)
    (xs ys : List Char) :
    compareLists compare (Timestamp.padded w a ++ xs) (Timestamp.padded w b ++ ys) =
      (compare a b).then (compareLists compare xs ys) := by
  have hlength : (Timestamp.padded w a).length = (Timestamp.padded w b).length := by
    rw [Timestamp.length_padded hw ha, Timestamp.length_padded hw hb]
  rw [compareLists_append hlength, compareLists_digits hlength
    (fun _ => Timestamp.isDigit_of_mem_padded) (fun _ => Timestamp.isDigit_of_mem_padded),
    Timestamp.ofDigitChars_padded, Timestamp.ofDigitChars_padded]

end Tablewright
