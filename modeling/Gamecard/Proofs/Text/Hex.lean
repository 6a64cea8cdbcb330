import Gamecard.Json.HexString
import Gamecard.Proofs.Text.Utf8

/-!
# Hexadecimal text read back

Bytes that are written as digits are read back from them, and the text of the
digits has two bytes for every byte written.
-/

namespace Gamecard.Hex

theorem digit_lt (half : Fin 16) : (digit (UInt8.ofNat half)).toNat < 0x80 := by
  revert half
  decide

theorem join_halves (high low : Fin 16) :
    UInt8.ofNat high <<< 4 ||| UInt8.ofNat low = UInt8.ofNat (16 * high + low) := by
  revert high low
  decide

/-- The two halves that a byte is written by, and the byte that they make. -/
theorem exists_halves (byte : UInt8) :
    ∃ high low : Fin 16, byte >>> 4 = UInt8.ofNat high ∧ byte &&& 0xF = UInt8.ofNat low ∧
      UInt8.ofNat high <<< 4 ||| UInt8.ofNat low = byte := by
  have bounded : byte.toNat < 256 := byte.toNat_lt
  let high : Fin 16 := ⟨byte.toNat / 16, by omega⟩
  let low : Fin 16 := ⟨byte.toNat % 16, Nat.mod_lt _ (by decide)⟩
  have above : byte >>> 4 = UInt8.ofNat high := by
    apply UInt8.toNat_inj.mp
    rw [UInt8.toNat_shiftRight, UInt8.toNat_ofNat_of_lt' (Nat.lt_trans high.isLt (by decide))]
    exact Nat.shiftRight_eq_div_pow byte.toNat 4
  have below : byte &&& 0xF = UInt8.ofNat low := by
    apply UInt8.toNat_inj.mp
    rw [UInt8.toNat_and, UInt8.toNat_ofNat_of_lt' (Nat.lt_trans low.isLt (by decide))]
    exact Nat.and_two_pow_sub_one_eq_mod byte.toNat 4
  have whole : 16 * high.val + low.val = byte.toNat := Nat.div_add_mod byte.toNat 16
  refine ⟨high, low, above, below, ?_⟩
  rw [join_halves, whole, UInt8.ofNat_toNat]

theorem digits_cons (byte : UInt8) (bytes : Bytes) :
    digits (byte :: bytes) =
      digit (byte >>> 4) :: digit (byte &&& 0xF) :: digits bytes := by
  simp only [digits, List.flatMap_cons, pair, List.cons_append, List.nil_append]

@[simp] theorem length_digits (bytes : Bytes) : (digits bytes).length = 2 * bytes.length := by
  induction bytes with
  | nil => rfl
  | cons byte rest induction =>
      rw [digits_cons, List.length_cons, List.length_cons, induction, List.length_cons]
      omega

theorem isHex_digits (bytes : Bytes) : isHex (digits bytes) = true := by
  induction bytes with
  | nil => rfl
  | cons byte rest induction =>
      obtain ⟨high, low, above, below, _⟩ := exists_halves byte
      simp only [isHex] at induction ⊢
      rw [digits_cons, above, below, List.all_cons, List.all_cons, induction, digit?_digit,
        digit?_digit]
      rfl

/-- Reading the digits of some bytes gives the bytes. -/
theorem decode_digits (bytes : Bytes) : decode (digits bytes) = bytes := by
  induction bytes with
  | nil => rfl
  | cons byte rest induction =>
      obtain ⟨high, low, above, below, joined⟩ := exists_halves byte
      rw [digits_cons, above, below, decode, value_digit, value_digit, joined, induction]

theorem digits_lt (bytes : Bytes) : ∀ character ∈ digits bytes, character.toNat < 0x80 := by
  intro character member
  obtain ⟨byte, _, written⟩ := List.mem_flatMap.mp member
  obtain ⟨high, low, above, below, _⟩ := exists_halves byte
  simp only [pair, above, below, List.mem_cons, List.not_mem_nil, or_false] at written
  rcases written with first | second
  · rw [first]
    exact digit_lt high
  · rw [second]
    exact digit_lt low

/-- The text of some digits is encoded as the digits. -/
theorem encode_encode (bytes : Bytes) : Utf8.encode (encode bytes) = digits bytes := by
  have ascii := digits_lt bytes
  rw [Utf8.encode_eq_flatMap, encode, String.toList_ofList]
  generalize digits bytes = characters at ascii
  induction characters with
  | nil => rfl
  | cons character rest induction =>
      rw [List.forall_mem_cons] at ascii
      rw [List.map_cons, List.flatMap_cons, induction ascii.2, Utf8.utf8EncodeChar_ofNat ascii.1]
      rfl

theorem isHexText_encode (bytes : Bytes) : isHexText (encode bytes) = true := by
  rw [isHexText, encode_encode]
  exact isHex_digits bytes

/-- The digits of any number of bytes fill a block as the bytes do. -/
theorem decodeText_encode_eq_fit (size : Nat) (bytes : Bytes) :
    decodeText size (encode bytes) = Block.fit size bytes := by
  rw [decodeText, encode_encode, decode_digits]

/-- A block is read back from the text of its digits. -/
theorem decodeText_encode {size : Nat} (block : Block size) :
    decodeText size (encode block.bytes) = block := by
  rw [decodeText_encode_eq_fit]
  exact Block.ext (Bytes.fit_of_length_eq block.length_bytes)

end Gamecard.Hex
