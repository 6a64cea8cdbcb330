import Gamecard.Text.Utf8

/-!
# Zero bytes in UTF-8

The encoding of a text goes character by character, and only the character of
code zero has a zero byte in its encoding.
-/

namespace Gamecard.Utf8

theorem encode_eq_flatMap (text : String) :
    encode text = text.toList.flatMap String.utf8EncodeChar := by
  have bytes : text.toByteArray = (text.toList.flatMap String.utf8EncodeChar).toByteArray :=
    calc
      text.toByteArray = (String.ofList text.toList).toByteArray := by
        rw [String.ofList_toList]
      _ = (text.toList.flatMap String.utf8EncodeChar).toByteArray :=
        String.toByteArray_ofList
  rw [encode, bytes, List.data_toByteArray]

theorem ofNat_eq_zero_iff {value : Nat} (small : value < 256) :
    (0 : UInt8) = UInt8.ofNat value ↔ value = 0 := by
  rw [← UInt8.toNat_inj, UInt8.toNat_ofNat_of_lt' small]
  exact eq_comm

/-- A byte with a mark, as all bytes of characters beyond ASCII are, is not
zero. -/
theorem zero_ne_marked (bits : Nat) {width mark : Nat} (marked : 0 < mark)
    (wide : 0 < width) (small : width + mark ≤ 256) :
    (0 : UInt8) ≠ UInt8.ofNat (bits % width + mark) := by
  have bounded := Nat.mod_lt bits wide
  intro zero
  have nothing := (ofNat_eq_zero_iff (by omega)).mp zero
  omega

theorem zero_mem_utf8EncodeChar_iff (character : Char) :
    0 ∈ String.utf8EncodeChar character ↔ character = '\x00' := by
  have sameCode : character = '\x00' ↔ character.val.toNat = 0 := by
    rw [Char.ext_iff, ← UInt32.toNat_inj]
    rfl
  rw [sameCode]
  unfold String.utf8EncodeChar
  by_cases ascii : character.val.toNat ≤ 0x7F
  · simp only [if_pos ascii, List.mem_singleton]
    exact ofNat_eq_zero_iff (by omega)
  · have nonzero : character.val.toNat ≠ 0 := by omega
    simp only [if_neg ascii, nonzero, iff_false]
    have continuation (bits : Nat) : (0 : UInt8) ≠ UInt8.ofNat (bits % 0x40 + 0x80) :=
      zero_ne_marked bits (by decide) (by decide) (by decide)
    split
    · simp only [List.mem_cons, List.not_mem_nil, or_false, not_or]
      exact ⟨zero_ne_marked _ (by decide) (by decide) (by decide), continuation _⟩
    · split
      · simp only [List.mem_cons, List.not_mem_nil, or_false, not_or]
        exact ⟨zero_ne_marked _ (by decide) (by decide) (by decide), continuation _,
          continuation _⟩
      · simp only [List.mem_cons, List.not_mem_nil, or_false, not_or]
        exact ⟨zero_ne_marked _ (by decide) (by decide) (by decide), continuation _,
          continuation _, continuation _⟩

/-- The encoding of a text has a zero byte exactly if the text has a zero
character. -/
theorem zero_mem_encode_iff (text : String) : 0 ∈ encode text ↔ '\x00' ∈ text.toList := by
  rw [encode_eq_flatMap, List.mem_flatMap]
  constructor
  · intro ⟨character, member, zero⟩
    rwa [(zero_mem_utf8EncodeChar_iff character).mp zero] at member
  · intro member
    exact ⟨'\x00', member, (zero_mem_utf8EncodeChar_iff '\x00').mpr rfl⟩

/-- Every byte is the code of a character. -/
theorem toNat_val_ofNat (byte : UInt8) : (Char.ofNat byte.toNat).val.toNat = byte.toNat := by
  have bounded : byte.toNat < 256 := byte.toNat_lt
  have valid : byte.toNat.isValidChar := .inl (by omega)
  rw [Char.ofNat, dif_pos valid]
  rfl

theorem utf8EncodeChar_ofNat {byte : UInt8} (ascii : byte.toNat < 0x80) :
    String.utf8EncodeChar (Char.ofNat byte.toNat) = [byte] := by
  simp only [String.utf8EncodeChar, toNat_val_ofNat,
    if_pos (show byte.toNat ≤ 0x7F by omega)]
  rw [UInt8.ofNat_toNat]

end Gamecard.Utf8
