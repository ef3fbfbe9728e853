import Tablewright.Sql.Eval

/-!
# Comparisons

Integers compare as numbers and texts by their characters, so values of these classes compare as
equal only if they are the same (`compareLists_eq_iff`). The truth of a comparison is a value that
counts as this truth (`Value.truth_ofTruth`).
-/

namespace Tablewright

theorem compareLists_eq_iff {α : Type} {f : α → α → Ordering} (h : ∀ a b, f a b = .eq ↔ a = b)
    (xs ys : List α) : compareLists f xs ys = .eq ↔ xs = ys := by
  induction xs generalizing ys with
  | nil => cases ys <;> simp [compareLists]
  | cons x xs ih =>
    cases ys with
    | nil => simp [compareLists]
    | cons y ys => rw [compareLists, Ordering.then_eq_eq, h, ih, List.cons.injEq]

theorem compareLists_append {α : Type} {f : α → α → Ordering} {xs ys : List α}
    (h : xs.length = ys.length) (xs' ys' : List α) :
    compareLists f (xs ++ xs') (ys ++ ys') = (compareLists f xs ys).then (compareLists f xs' ys') := by
  induction xs generalizing ys with
  | nil =>
    obtain rfl := List.length_eq_zero_iff.1 h.symm
    rfl
  | cons x xs ih =>
    cases ys with
    | nil => cases h
    | cons y ys =>
      rw [List.cons_append, List.cons_append, compareLists, compareLists, ih (Nat.succ.inj h),
        Ordering.then_assoc]

/-- The order of two texts. -/
def compareText (a b : String) : Ordering :=
  compareLists compare a.toList b.toList

theorem compareText_eq_iff (a b : String) : compareText a b = .eq ↔ a = b := by
  rw [compareText, compareLists_eq_iff fun _ _ => Std.LawfulEqCmp.compare_eq_iff_eq,
    String.toList_inj]

theorem compareLists_eq_compareLex {α : Type} (f : α → α → Ordering) (xs ys : List α) :
    compareLists f xs ys = xs.compareLex f ys := by
  induction xs generalizing ys with
  | nil => cases ys <;> rfl
  | cons x xs ih =>
    cases ys with
    | nil => rfl
    | cons y ys => rw [compareLists, ih, List.compareLex_cons_cons]

/-- Texts are ordered linearly. -/
instance : Std.TransCmp compareText := by
  have : compareText = fun a b => a.toList.compareLex compare b.toList := by
    funext a b
    exact compareLists_eq_compareLex compare a.toList b.toList
  have htrans : Std.TransCmp (List.compareLex (compare : Char → Char → Ordering)) := inferInstance
  rw [this]
  exact { eq_swap := htrans.eq_swap, isLE_trans := htrans.isLE_trans }

theorem compareText_swap (a b : String) : compareText a b = (compareText b a).swap :=
  Std.OrientedCmp.eq_swap

theorem compareText_beq_eq (a b : String) : (compareText a b == .eq) = (a == b) := by
  rw [Bool.eq_iff_iff, beq_iff_eq, beq_iff_eq, compareText_eq_iff]

theorem compareInt_beq_eq (a b : Int) : (compare a b == .eq) = (a == b) := by
  rw [Bool.eq_iff_iff, beq_iff_eq, beq_iff_eq, Int.compare_eq_eq]

theorem compareInt_beq_gt (a b : Int) : (compare a b == .gt) = decide (b < a) := by
  rw [Bool.eq_iff_iff, beq_iff_eq, decide_eq_true_eq, Int.compare_eq_gt]

/-! ## Numbers -/

/-- Pairs of numbers compare alike if they are ordered alike. -/
theorem compare_congr {a b c d : Nat} (hlt : a < b ↔ c < d) (hgt : b < a ↔ d < c) :
    compare a b = compare c d := by
  rcases Nat.lt_trichotomy a b with h | h | h
  · rw [Nat.compare_eq_lt.2 h, Nat.compare_eq_lt.2 (hlt.1 h)]
  · rw [Nat.compare_eq_eq.2 h, Nat.compare_eq_eq.2 (by omega)]
  · rw [Nat.compare_eq_gt.2 h, Nat.compare_eq_gt.2 (hgt.1 h)]

/-- Numbers with a remainder in front compare first by what is in front. -/
theorem compare_radix {m a b x y : Nat} (hx : x < m) (hy : y < m) :
    compare (m * a + x) (m * b + y) = (compare a b).then (compare x y) := by
  rcases Nat.lt_trichotomy a b with h | rfl | h
  · have : m * (a + 1) ≤ m * b := Nat.mul_le_mul_left m h
    rw [Nat.compare_eq_lt.2 h, Nat.compare_eq_lt.2 (by rw [Nat.mul_succ] at this; omega)]
    rfl
  · rw [Nat.compare_eq_eq.2 rfl, Ordering.eq_then]
    simp only [Nat.compare_eq_ite_lt, Nat.add_lt_add_iff_left]
  · have : m * (b + 1) ≤ m * a := Nat.mul_le_mul_left m h
    rw [Nat.compare_eq_gt.2 h, Nat.compare_eq_gt.2 (by rw [Nat.mul_succ] at this; omega)]
    rfl

/-- The same where what is in front may be negative. -/
theorem compareInt_radix {m x y : Nat} {a b : Int} (hx : x < m) (hy : y < m) :
    compare (m * a + x) (m * b + y) = (compare a b).then (compare x y) := by
  rcases Int.lt_trichotomy a b with h | rfl | h
  · have : m * (a + 1) ≤ m * b := Int.mul_le_mul_of_nonneg_left h (Int.natCast_nonneg m)
    rw [Int.compare_eq_lt.2 h, Int.compare_eq_lt.2 (by rw [Int.mul_add] at this; omega)]
    rfl
  · rw [Int.compare_eq_eq.2 rfl, Ordering.eq_then]
    simp only [Int.compare_eq_ite_lt, Nat.compare_eq_ite_lt, Int.add_lt_add_iff_left, Int.ofNat_lt]
  · have : m * (b + 1) ≤ m * a := Int.mul_le_mul_of_nonneg_left h (Int.natCast_nonneg m)
    rw [Int.compare_eq_gt.2 h, Int.compare_eq_gt.2 (by rw [Int.mul_add] at this; omega)]
    rfl

/-- What is ordered as its numbers are compares as they do. -/
theorem compareOfLessAndEq_eq {α : Type} [LT α] [DecidableLT α] [DecidableEq α] (f : α → Nat)
    (hlt : ∀ a b, a < b ↔ f a < f b) (hinj : ∀ a b, f a = f b ↔ a = b) (a b : α) :
    compareOfLessAndEq a b = compare (f a) (f b) := by
  rw [compareOfLessAndEq, Nat.compare_eq_ite_lt]
  simp only [hlt, ← hinj]
  rcases Nat.lt_trichotomy (f a) (f b) with h | h | h
  · rw [if_pos h, if_pos h]
  · rw [h, if_neg (Nat.lt_irrefl _), if_neg (Nat.lt_irrefl _), if_neg (Nat.lt_irrefl _), if_pos rfl]
  · rw [if_neg (Nat.lt_asymm h), if_neg (Nat.lt_asymm h), if_pos h, if_neg (Nat.ne_of_gt h)]

theorem compare_char (c d : Char) : compare c d = compare c.toNat d.toNat :=
  compareOfLessAndEq_eq Char.toNat (fun _ _ => UInt32.lt_iff_toNat_lt) (fun _ _ => Char.toNat_inj) c d

/-! ## Truth -/

theorem Value.truth_ofTruth (o : Option Bool) : (Value.ofTruth o).truth = o := by
  rcases o with _ | _ | _ <;> rfl

theorem Value.holds_ofTruth (o : Option Bool) : (Value.ofTruth o).holds = (o == some true) := by
  rw [Value.holds, Value.truth_ofTruth]

theorem Truth.and_some (a b : Bool) : Truth.and (some a) (some b) = some (a && b) := by
  cases a <;> cases b <;> rfl

/-- A conjunction is true if both sides are. -/
theorem Truth.and_beq_true (a b : Option Bool) :
    (Truth.and a b == some true) = (a == some true && b == some true) := by
  rcases a with _ | _ | _ <;> rcases b with _ | _ | _ <;> rfl

/-- Something is known to be equal to a value if it is that value. -/
theorem map_beq_true {α : Type} [BEq α] [LawfulBEq α] (o : Option α) (a : α) :
    (o.map (a == ·) == some true) = (o == some a) := by
  cases o with
  | none => rfl
  | some b => rw [Option.map_some, Option.some_beq_some, Option.some_beq_some, beq_true, Bool.beq_comm]

end Tablewright
