import Gamecard.Proofs.Text.HexReading

/-!
# Blocks and the texts of their digits

A block is written as two digits for each of its bytes, and the texts that are read as
the block are those that differ from its digits in nothing but the case of letters.  No
other text is read: one of another length in bytes is refused for its length, and one
of the right length for what in it is no digit.  It is the reading of a block that sees
to this: the decoding of digits by itself takes any text for any number of bytes.
-/

namespace Gamecard

namespace Hex

/-- The byte is the code of a digit: from 0 to 9, or from A to F in either case. -/
def IsDigitCode (byte : UInt8) : Prop :=
  isDigit (Char.ofNat byte.toNat) = true

/-- What is wrong with a text that no block of this size is read from: the length of its
encoding, or else, if that is right, its digits. -/
inductive Misspells (size : Nat) (text : String) : HexStringError → Prop where
  | length (other : (Utf8.encode text).length ≠ 2 * size) :
      Misspells size text (.wrongLength (Utf8.encode text).length)
  | digits (long : (Utf8.encode text).length = 2 * size)
      (exception : ∃ byte ∈ Utf8.encode text, ¬IsDigitCode byte) :
      Misspells size text (.notHex text)

theorem isSome_digit?_iff (byte : UInt8) :
    (digit? byte).isSome = true ↔ IsDigitCode byte := by
  by_cases ascii : byte.toNat < 0x80
  · have encoded := isHex_utf8EncodeChar (Char.ofNat byte.toNat)
    rw [Utf8.utf8EncodeChar_ofNat ascii] at encoded
    rw [IsDigitCode, ← encoded, isHex, List.all_cons, List.all_nil, Bool.and_true]
  · have other : ¬IsDigitCode byte := by
      intro digit
      have small : (Char.ofNat byte.toNat).val.toNat < 128 := isDigit_ascii digit
      rw [Utf8.toNat_val_ofNat] at small
      exact ascii small
    rw [digit?_eq_none (Nat.le_of_not_lt ascii)]
    simp only [Option.isSome_none, Bool.false_eq_true, other]

theorem isHexText_iff_codes (text : String) :
    isHexText text = true ↔ ∀ byte ∈ Utf8.encode text, IsDigitCode byte := by
  rw [isHexText, isHex, List.all_eq_true]
  exact forall₂_congr fun byte _ => isSome_digit?_iff byte

theorem isHexText_eq_false_iff_codes (text : String) :
    isHexText text = false ↔ ∃ byte ∈ Utf8.encode text, ¬IsDigitCode byte := by
  rw [isHexText, isHex, List.all_eq_false]
  exact exists_congr fun byte => and_congr_right fun _ => not_congr (isSome_digit?_iff byte)

theorem isNumber_iff_codes {count : Nat} {text : String} :
    IsNumber count text ↔
      (Utf8.encode text).length = count ∧ ∀ byte ∈ Utf8.encode text, IsDigitCode byte := by
  rw [isNumber_iff, isHexText_iff_codes]

variable {size : Nat} {text : String}

theorem parseBlock_of_isNumber (number : IsNumber (2 * size) text) :
    parseBlock size text = .ok (decodeText size text) := by
  obtain ⟨long, hex⟩ := isNumber_iff.mp number
  simp only [parseBlock, long, hex, ne_eq, not_true_eq_false, Bool.not_true,
    Bool.false_eq_true, if_false]

theorem Misspells.parseBlock_eq {error : HexStringError} (wrong : Misspells size text error) :
    parseBlock size text = .error error := by
  cases wrong with
  | length other => exact if_pos other
  | digits long exception =>
      have refused := (isHexText_eq_false_iff_codes text).mpr exception
      simp only [parseBlock, long, refused, ne_eq, not_true_eq_false, Bool.not_false, if_false,
        if_true]

theorem isNumber_or_misspells (size : Nat) (text : String) :
    IsNumber (2 * size) text ∨ ∃ error, Misspells size text error := by
  by_cases long : (Utf8.encode text).length = 2 * size
  · cases hex : isHexText text with
    | true => exact .inl (isNumber_iff.mpr ⟨long, hex⟩)
    | false => exact .inr ⟨_, .digits long ((isHexText_eq_false_iff_codes text).mp hex)⟩
  · exact .inr ⟨_, .length long⟩

theorem exists_parseBlock_iff :
    (∃ block, parseBlock size text = .ok block) ↔ IsNumber (2 * size) text := by
  constructor
  · rintro ⟨block, read⟩
    rcases isNumber_or_misspells size text with number | ⟨error, wrong⟩
    · exact number
    · rw [wrong.parseBlock_eq] at read
      cases read
  · intro number
    exact ⟨_, parseBlock_of_isNumber number⟩

/-- A block is read from the spellings of its digits in any case. -/
theorem parseBlock_eq_ok_iff {block : Block size} :
    parseBlock size text = .ok block ↔ text.map Char.toUpper = block.toHex := by
  constructor
  · intro read
    have number := exists_parseBlock_iff.mp ⟨block, read⟩
    rw [parseBlock_of_isNumber number] at read
    cases read
    exact (toHex_decodeText_of_isNumber number).symm
  · intro written
    rw [parseBlock_of_isNumber (isNumber_of_toUpper written), decodeText_of_toUpper written]

theorem parseBlock_eq_error_iff {error : HexStringError} :
    parseBlock size text = .error error ↔ Misspells size text error := by
  constructor
  · intro refused
    rcases isNumber_or_misspells size text with number | ⟨other, wrong⟩
    · rw [parseBlock_of_isNumber number] at refused
      cases refused
    · rw [wrong.parseBlock_eq] at refused
      cases refused
      exact wrong
  · exact Misspells.parseBlock_eq

-- One character that takes two bytes is as long as two digits.
example : parseBlock 1 "é" = .error (.notHex "é") := rfl

end Hex

namespace Block

/-- Blocks and texts of digits are the same up to the case of letters.  A block is read
back from its digits, which stand for it in JSON; a text is read exactly if it has two
bytes for each byte of the block and all of them are digits, the block is then the one
that is written as the text in upper case, and what is said of any other text is what
is wrong with it.  The digits of any bytes are decoded to as many of the bytes as fit,
and zeros behind them. -/
theorem hexText_bijective (size : Nat) :
    (∀ block : Block size,
        block.toJson = .string block.toHex ∧ ofJson size block.toJson = .ok block) ∧
      (∀ text : String,
        ((∃ block, ofJson size (.string text) = .ok block) ↔
          (Utf8.encode text).length = 2 * size ∧
            ∀ byte ∈ Utf8.encode text, Hex.IsDigitCode byte) ∧
        (∀ block, ofJson size (.string text) = .ok block ↔
          block.toHex = text.map Char.toUpper) ∧
        ∀ error, ofJson size (.string text) = .error error ↔
          Hex.Misspells size text error) ∧
      ∀ bytes : Bytes, (Hex.decodeText size (Hex.encode bytes)).bytes =
        bytes.take size ++ Bytes.zeros (size - bytes.length) := by
  refine ⟨?_, ?_, ?_⟩
  · intro block
    exact ⟨rfl, Hex.parseBlock_eq_ok_iff.mpr (Hex.map_toUpper_toHex block)⟩
  · intro text
    refine ⟨?_, ?_, ?_⟩
    · exact Hex.exists_parseBlock_iff.trans Hex.isNumber_iff_codes
    · intro block
      exact Hex.parseBlock_eq_ok_iff.trans eq_comm
    · intro error
      exact Hex.parseBlock_eq_error_iff
  · intro bytes
    rw [Hex.decodeText_encode_eq_fit]
    rfl

end Block

end Gamecard
