/-!
# Comparing names without ASCII case

Keywords and SQL names compare without regard to the case of ASCII letters; every other
character stands for itself. Names compare byte by byte (`sameName`), which is to compare their
representatives in lower case (`sameName_iff`).
-/

namespace Tablewright.Text

/-- The text with its ASCII letters in lower case. -/
def lowerAscii (s : String) : String :=
  s.map Char.toLower

/-- The text with its ASCII letters in upper case. -/
def upperAscii (s : String) : String :=
  s.map Char.toUpper

/-- The bytes of a text. -/
def bytes (s : String) : List UInt8 :=
  s.toByteArray.data.toList

/-- A byte, that of an ASCII letter in lower case. -/
def foldByte (b : UInt8) : UInt8 :=
  if 65 ≤ b && b ≤ 90 then b + 32 else b

/-- The bytes of a text, those of ASCII letters in lower case. -/
def foldedBytes (s : String) : List UInt8 :=
  (bytes s).map foldByte

/-- Equality up to the case of ASCII letters. -/
def sameName (a b : String) : Bool :=
  foldedBytes a == foldedBytes b

/-- Whether a name begins with another one, up to the case of ASCII letters. -/
def beginsWithName (beginning name : String) : Bool :=
  (foldedBytes beginning).isPrefixOf (foldedBytes name)

theorem sameName_refl (a : String) : sameName a a := by
  simp [sameName]

/-! ## Representatives in lower case -/

theorem bytes_inj {a b : String} : bytes a = bytes b ↔ a = b := by
  simp only [bytes, Array.toList_inj, ← String.toByteArray_inj, ByteArray.ext_iff]

theorem bytes_eq_flatMap (s : String) : bytes s = s.toList.flatMap String.utf8EncodeChar := by
  rw [bytes, ← String.utf8Encode_toList, List.utf8Encode, List.data_toByteArray]

theorem foldByte_ofNat_of_le {n : Nat} (h : 128 ≤ n) (h' : n < 256) :
    foldByte (UInt8.ofNat n) = UInt8.ofNat n := by
  have : ¬UInt8.ofNat n ≤ 90 := by
    rw [UInt8.le_iff_toNat_le, UInt8.toNat_ofNat_of_lt' h']
    simp
    omega
  simp [foldByte, this]

theorem foldByte_ascii : ∀ n : Fin 128,
    (String.utf8EncodeChar (Char.ofNat n)).map foldByte =
      String.utf8EncodeChar (Char.ofNat n).toLower := by
  decide +kernel

/-- Only ASCII letters have bytes that fold. -/
theorem map_foldByte_utf8EncodeChar (c : Char) :
    (String.utf8EncodeChar c).map foldByte = String.utf8EncodeChar c.toLower := by
  by_cases h : c.toNat < 128
  · simpa using foldByte_ascii ⟨c.toNat, h⟩
  · have hlower : c.toLower = c := by
      refine dif_neg fun hc => h ?_
      have : c.toNat ≤ 90 := UInt32.le_iff_toNat_le.1 hc.2
      omega
    have hc : ¬c.val.toNat ≤ 127 := fun hc => h (Nat.lt_succ_of_le hc)
    have hval : c.val.toNat < 1114112 := by
      have : c.val.toNat < 55296 ∨ 57343 < c.val.toNat ∧ c.val.toNat < 1114112 := c.valid
      omega
    rw [hlower, String.utf8EncodeChar]
    simp only [hc, if_false]
    split
    · simp only [List.map_cons, List.map_nil]
      rw [foldByte_ofNat_of_le, foldByte_ofNat_of_le] <;> omega
    split
    · simp only [List.map_cons, List.map_nil]
      rw [foldByte_ofNat_of_le, foldByte_ofNat_of_le, foldByte_ofNat_of_le] <;> omega
    · simp only [List.map_cons, List.map_nil]
      rw [foldByte_ofNat_of_le, foldByte_ofNat_of_le, foldByte_ofNat_of_le,
        foldByte_ofNat_of_le] <;> omega

theorem foldedBytes_eq (s : String) : foldedBytes s = bytes (lowerAscii s) := by
  rw [foldedBytes, bytes_eq_flatMap, bytes_eq_flatMap, lowerAscii, String.toList_map,
    List.map_flatMap, List.flatMap_map]
  simp only [map_foldByte_utf8EncodeChar]

theorem sameName_iff {a b : String} : sameName a b = true ↔ lowerAscii a = lowerAscii b := by
  rw [sameName, foldedBytes_eq, foldedBytes_eq, beq_iff_eq, bytes_inj]

end Tablewright.Text
