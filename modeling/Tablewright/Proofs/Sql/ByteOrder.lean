import Tablewright.Proofs.Sql.Comparison
import Tablewright.Text.Ascii

/-!
# The order of bytes

A database compares texts byte by byte. The bytes of two characters compare as the characters do,
whatever follows them (`IsUtf8.compareLists_append`), so texts compare by their bytes as they do by
their characters (`compareBytes_eq_compareText`).
-/

namespace Tablewright

open Text

/-! ## Bytes -/

theorem compare_byte {m n : Nat} (hm : m < 256) (hn : n < 256) :
    compare (UInt8.ofNat m) (UInt8.ofNat n) = compare m n := by
  have h : compare (UInt8.ofNat m) (UInt8.ofNat n) =
      compare (UInt8.ofNat m).toNat (UInt8.ofNat n).toNat :=
    compareOfLessAndEq_eq UInt8.toNat (fun _ _ => UInt8.lt_iff_toNat_lt)
      (fun _ _ => UInt8.toNat_inj) _ _
  rwa [UInt8.toNat_ofNat_of_lt' hm, UInt8.toNat_ofNat_of_lt' hn] at h

theorem compare_add (a b k : Nat) : compare (a + k) (b + k) = compare a b :=
  compare_congr Nat.add_lt_add_iff_right Nat.add_lt_add_iff_right

/-- Numbers compare by what is before their last six bits, then by these. -/
theorem compare_sextet (m n : Nat) :
    compare m n = (compare (m / 64) (n / 64)).then (compare (m % 64) (n % 64)) := by
  rw [← compare_radix (Nat.mod_lt m (by decide)) (Nat.mod_lt n (by decide)), Nat.div_add_mod,
    Nat.div_add_mod]

/-! ## Bytes of characters -/

/-- The bytes of a character by its number. The first byte tells how many bytes there are, and
every other byte holds six bits. -/
inductive IsUtf8 : Nat → List UInt8 → Prop
  | one {n : Nat} (hlt : n < 128) : IsUtf8 n [UInt8.ofNat n]
  | two {n : Nat} (hle : 128 ≤ n) (hlt : n < 2048) :
      IsUtf8 n [UInt8.ofNat (n / 64 + 192), UInt8.ofNat (n % 64 + 128)]
  | three {n : Nat} (hle : 2048 ≤ n) (hlt : n < 65536) :
      IsUtf8 n [UInt8.ofNat (n / 64 / 64 + 224), UInt8.ofNat (n / 64 % 64 + 128),
        UInt8.ofNat (n % 64 + 128)]
  | four {n : Nat} (hle : 65536 ≤ n) (hlt : n < 1114112) :
      IsUtf8 n [UInt8.ofNat (n / 64 / 64 / 64 + 240), UInt8.ofNat (n / 64 / 64 % 64 + 128),
        UInt8.ofNat (n / 64 % 64 + 128), UInt8.ofNat (n % 64 + 128)]

theorem isUtf8_utf8EncodeChar (c : Char) : IsUtf8 c.val.toNat (String.utf8EncodeChar c) := by
  have hvalid : c.val.toNat < 55296 ∨ 57343 < c.val.toNat ∧ c.val.toNat < 1114112 := c.valid
  rw [String.utf8EncodeChar]
  generalize c.val.toNat = n at *
  have hthird : n / 4096 = n / 64 / 64 := by omega
  have hfourth : n / 262144 = n / 64 / 64 / 64 := by omega
  split
  case isTrue h => exact .one (by omega)
  split
  case isTrue h =>
    have hlead : n / 64 % 32 = n / 64 := by omega
    rw [hlead]
    exact .two (by omega) (by omega)
  split
  case isTrue h =>
    have hlead : n / 64 / 64 % 16 = n / 64 / 64 := by omega
    rw [hthird, hlead]
    exact .three (by omega) (by omega)
  case isFalse h =>
    have hlead : n / 64 / 64 / 64 % 8 = n / 64 / 64 / 64 := by omega
    rw [hthird, hfourth, hlead]
    exact .four (by omega) (by omega)

/-- A first byte that differs decides. -/
theorem compareLists_of_lead {m n a b : Nat} (ha : a < 256) (hb : b < 256)
    (hlt : a < b ∧ m < n ∨ b < a ∧ n < m) (as bs xs ys : List UInt8) :
    compareLists compare (UInt8.ofNat a :: as ++ xs) (UInt8.ofNat b :: bs ++ ys) =
      (compare m n).then (compareLists compare xs ys) := by
  rw [List.cons_append, List.cons_append, compareLists, compare_byte ha hb]
  obtain ⟨hab, hmn⟩ | ⟨hab, hmn⟩ := hlt
  · rw [Nat.compare_eq_lt.2 hab, Nat.compare_eq_lt.2 hmn]
    rfl
  · rw [Nat.compare_eq_gt.2 hab, Nat.compare_eq_gt.2 hmn]
    rfl

/-- The bytes of a number decide as the number does. -/
theorem IsUtf8.compareLists_append {m n : Nat} {as bs : List UInt8} (hm : IsUtf8 m as)
    (hn : IsUtf8 n bs) (xs ys : List UInt8) :
    compareLists compare (as ++ xs) (bs ++ ys) =
      (compare m n).then (compareLists compare xs ys) := by
  have hbyte : ∀ {a b k : Nat}, a + k < 256 → b + k < 256 →
      compare (UInt8.ofNat (a + k)) (UInt8.ofNat (b + k)) = compare a b := fun ha hb => by
    rw [compare_byte ha hb, compare_add]
  cases hm <;> cases hn
  case one.one =>
    rw [List.singleton_append, List.singleton_append, compareLists,
      compare_byte (by omega) (by omega)]
  case two.two =>
    simp only [List.cons_append, List.nil_append, compareLists]
    rw [hbyte (by omega) (by omega), hbyte (by omega) (by omega), compare_sextet m n,
      Ordering.then_assoc]
  case three.three =>
    simp only [List.cons_append, List.nil_append, compareLists]
    rw [hbyte (by omega) (by omega), hbyte (by omega) (by omega), hbyte (by omega) (by omega),
      compare_sextet m n, compare_sextet (m / 64) (n / 64), Ordering.then_assoc, Ordering.then_assoc]
  case four.four =>
    simp only [List.cons_append, List.nil_append, compareLists]
    rw [hbyte (by omega) (by omega), hbyte (by omega) (by omega), hbyte (by omega) (by omega),
      hbyte (by omega) (by omega), compare_sextet m n, compare_sextet (m / 64) (n / 64),
      compare_sextet (m / 64 / 64) (n / 64 / 64), Ordering.then_assoc, Ordering.then_assoc,
      Ordering.then_assoc]
  -- characters of different lengths differ in the first byte
  all_goals exact compareLists_of_lead (by omega) (by omega) (by omega) _ _ xs ys

/-! ## Texts -/

/-- The order of two texts by their bytes. -/
def compareBytes (a b : String) : Ordering :=
  compareLists compare (bytes a) (bytes b)

/-- **Texts compare by their bytes as by their characters.** -/
theorem compareBytes_eq_compareText (a b : String) : compareBytes a b = compareText a b := by
  rw [compareBytes, compareText, bytes_eq_flatMap, bytes_eq_flatMap]
  generalize a.toList = cs
  generalize b.toList = ds
  induction cs generalizing ds with
  | nil =>
    cases ds with
    | nil => rfl
    | cons d ds =>
      obtain ⟨byte, others, h⟩ := List.exists_cons_of_ne_nil (@String.utf8EncodeChar_ne_nil d)
      rw [List.flatMap_cons, h]
      rfl
  | cons c cs ih =>
    cases ds with
    | nil =>
      obtain ⟨byte, others, h⟩ := List.exists_cons_of_ne_nil (@String.utf8EncodeChar_ne_nil c)
      rw [List.flatMap_cons, h]
      rfl
    | cons d ds =>
      rw [List.flatMap_cons, List.flatMap_cons,
        (isUtf8_utf8EncodeChar c).compareLists_append (isUtf8_utf8EncodeChar d), ih, compareLists,
        compare_char]
      rfl

end Tablewright
