import Tablewright.Text.Ascii

/-!
# Characters of ASCII texts

A text is stored as its bytes. If none of them is beyond ASCII, its characters are its bytes
(`toList_eq_asciiChars`), so that the characters of a fixed text can be computed.
-/

namespace Tablewright.Text

/-- The characters that the bytes of an ASCII text are. -/
def asciiChars (s : String) : List Char :=
  (bytes s).map fun b => Char.ofNat b.toNat

theorem asciiChar_utf8EncodeChar : ∀ n : Fin 128,
    (String.utf8EncodeChar (Char.ofNat n)).map (fun b => Char.ofNat b.toNat) = [Char.ofNat n] := by
  decide

theorem exists_not_ascii_byte {c : Char} (h : ¬c.toNat < 128) :
    ∃ b ∈ String.utf8EncodeChar c, ¬b < 128 := by
  have hc : ¬c.val.toNat ≤ 127 := fun hc => h (Nat.lt_succ_of_le hc)
  have head : ∀ {n : Nat}, 128 ≤ n → n < 256 → ¬UInt8.ofNat n < 128 := by
    intro n hn hn' hlt
    rw [UInt8.lt_iff_toNat_lt, UInt8.toNat_ofNat_of_lt' hn'] at hlt
    have : (128 : UInt8).toNat = 128 := rfl
    omega
  rw [String.utf8EncodeChar]
  simp only [hc, if_false]
  split
  · exact ⟨_, List.mem_cons_self, head (by omega) (by omega)⟩
  split
  · exact ⟨_, List.mem_cons_self, head (by omega) (by omega)⟩
  · exact ⟨_, List.mem_cons_self, head (by omega) (by omega)⟩

/-- A text without bytes beyond ASCII has one character for each byte. -/
theorem toList_eq_asciiChars {s : String} (h : (bytes s).all (· < 128) = true) :
    s.toList = asciiChars s := by
  rw [asciiChars]
  rw [bytes_eq_flatMap] at h ⊢
  generalize s.toList = cs at h ⊢
  induction cs with
  | nil => rfl
  | cons c cs ih =>
    rw [List.flatMap_cons, List.all_append, Bool.and_eq_true] at h
    have hc : c.toNat < 128 := by
      refine Classical.byContradiction fun hc => ?_
      obtain ⟨b, hb, hlt⟩ := exists_not_ascii_byte hc
      exact hlt (by simpa using List.all_eq_true.1 h.1 b hb)
    have hone := asciiChar_utf8EncodeChar ⟨c.toNat, hc⟩
    rw [Char.ofNat_toNat] at hone
    rw [List.flatMap_cons, List.map_append, hone, ← ih h.2]
    rfl

end Tablewright.Text
