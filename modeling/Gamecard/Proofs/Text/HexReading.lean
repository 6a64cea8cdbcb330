import Gamecard.Proofs.Bytes
import Gamecard.Proofs.Text.Hex

/-!
# Digits in texts

A text of hexadecimal digits is one byte a character when it is encoded.  What is
decoded from any text and written again shows how its bytes were read: a digit as
itself in upper case, and everything else as zero.
-/

namespace Gamecard

namespace Utf8

theorem forall_ascii {claim : Char → Prop} (all : ∀ code : Fin 128, claim (Char.ofNat code))
    (character : Char) (ascii : character.toNat < 128) : claim character := by
  have here := all ⟨character.toNat, ascii⟩
  rwa [Char.ofNat_toNat] at here

theorem encode_ofList (characters : List Char) :
    encode (String.ofList characters) = characters.flatMap String.utf8EncodeChar := by
  rw [encode_eq_flatMap, String.toList_ofList]

/-- A character beyond ASCII begins with a byte that is marked as such. -/
theorem exists_lead_of_not_ascii {character : Char} (beyond : ¬character.toNat < 128) :
    ∃ lead rest, String.utf8EncodeChar character = lead :: rest ∧ 0x80 ≤ lead.toNat := by
  have code : ¬character.val.toNat ≤ 0x7F := by
    intro small
    exact beyond (Nat.lt_succ_of_le small)
  have marked (bits width mark : Nat) (wide : 0 < width) (small : width + mark ≤ 256)
      (large : 0x80 ≤ mark) : 0x80 ≤ (UInt8.ofNat (bits % width + mark)).toNat := by
    have bounded := Nat.mod_lt bits wide
    rw [UInt8.toNat_ofNat_of_lt' (by change bits % width + mark < 256; omega)]
    omega
  unfold String.utf8EncodeChar
  rw [if_neg code]
  split
  · exact ⟨_, _, rfl, marked _ _ _ (by decide) (by decide) (by decide)⟩
  · split
    · exact ⟨_, _, rfl, marked _ _ _ (by decide) (by decide) (by decide)⟩
    · exact ⟨_, _, rfl, marked _ _ _ (by decide) (by decide) (by decide)⟩

end Utf8

namespace Hex

/-- The characters that are digits. -/
def isDigit (character : Char) : Bool :=
  character.isDigit || ('a' ≤ character && character ≤ 'f') ||
    ('A' ≤ character && character ≤ 'F')

/-- The text consists of exactly `count` digits. -/
def IsNumber (count : Nat) (text : String) : Prop :=
  text.length = count ∧ ∀ character ∈ text.toList, isDigit character = true

/-- How a byte of a text is read: a digit as itself in upper case, and all else as
zero. -/
def readAs (byte : UInt8) : Char :=
  if (digit? byte).isSome then (Char.ofNat byte.toNat).toUpper else '0'

theorem isDigit_ascii {character : Char} (hex : isDigit character = true) :
    character.toNat < 128 := by
  simp only [isDigit, Char.isDigit, Bool.or_eq_true, Bool.and_eq_true, decide_eq_true_eq] at hex
  rcases hex with (decimal | lower) | upper
  · exact Nat.lt_of_le_of_lt decimal.2 (by decide)
  · exact Nat.lt_of_le_of_lt lower.2 (by decide)
  · exact Nat.lt_of_le_of_lt upper.2 (by decide)

theorem digit?_eq_none {byte : UInt8} (marked : 0x80 ≤ byte.toNat) : digit? byte = none := by
  have above (bound : UInt8) (small : bound.toNat < 0x80) : ¬byte ≤ bound := by
    rw [UInt8.le_iff_toNat_le]
    omega
  simp only [digit?, above 0x39 (by decide), above 0x46 (by decide), above 0x66 (by decide),
    and_false, if_false]

theorem isHex_utf8EncodeChar (character : Char) :
    isHex (String.utf8EncodeChar character) = isDigit character := by
  by_cases ascii : character.toNat < 128
  · revert character
    apply Utf8.forall_ascii
    decide
  · obtain ⟨lead, rest, encoded, marked⟩ := Utf8.exists_lead_of_not_ascii ascii
    have other : isDigit character = false := by
      cases hex : isDigit character with
      | false => rfl
      | true => exact absurd (isDigit_ascii hex) ascii
    rw [encoded, isHex, List.all_cons, digit?_eq_none marked, other]
    rfl

theorem isHexText_iff (text : String) :
    isHexText text = true ↔ ∀ character ∈ text.toList, isDigit character = true := by
  rw [isHexText, Utf8.encode_eq_flatMap, isHex, List.all_flatMap, List.all_eq_true]
  simp only [← isHex_utf8EncodeChar, isHex]

theorem isHexText_eq_false {text : String}
    (exception : ∃ character ∈ text.toList, isDigit character = false) :
    isHexText text = false := by
  obtain ⟨character, member, other⟩ := exception
  rw [← Bool.not_eq_true, isHexText_iff]
  intro digits
  rw [digits character member] at other
  cases other

theorem ofNat_digit_value (byte : UInt8) :
    Char.ofNat (digit (value byte)).toNat = readAs byte := by
  revert byte
  apply Bytes.forall_byte
  decide +kernel

/-- A digit is encoded as one byte, and that byte is read as the digit. -/
theorem map_readAs_utf8EncodeChar {character : Char} (hex : isDigit character = true) :
    (String.utf8EncodeChar character).map readAs = [character.toUpper] := by
  have ascii := isDigit_ascii hex
  revert hex
  revert character
  apply Utf8.forall_ascii
  decide

theorem map_readAs_encode {text : String}
    (hex : ∀ character ∈ text.toList, isDigit character = true) :
    (Utf8.encode text).map readAs = text.toList.map Char.toUpper := by
  rw [Utf8.encode_eq_flatMap]
  generalize text.toList = characters at hex
  induction characters with
  | nil => rfl
  | cons character rest induction =>
      rw [List.forall_mem_cons] at hex
      rw [List.flatMap_cons, List.map_append, map_readAs_utf8EncodeChar hex.1, induction hex.2]
      rfl

theorem length_encode_of_hex {text : String}
    (hex : ∀ character ∈ text.toList, isDigit character = true) :
    (Utf8.encode text).length = text.length := by
  have lengths := congrArg List.length (map_readAs_encode hex)
  rwa [List.length_map, List.length_map, String.length_toList] at lengths

theorem isNumber_ofList {count : Nat} {characters : List Char}
    (counted : characters.length = count) (hex : characters.all isDigit = true) :
    IsNumber count (String.ofList characters) := by
  constructor
  · rw [String.length_ofList, counted]
  · rw [String.toList_ofList]
    exact List.all_eq_true.mp hex

/-- The two tests of a text, that of its length in bytes and that of its bytes, accept
exactly the numbers of that many digits. -/
theorem isNumber_iff {count : Nat} {text : String} :
    IsNumber count text ↔
      (Utf8.encode text).length = count ∧ isHexText text = true := by
  rw [isHexText_iff, IsNumber]
  constructor
  · rintro ⟨long, hex⟩
    exact ⟨(length_encode_of_hex hex).trans long, hex⟩
  · rintro ⟨long, hex⟩
    exact ⟨(length_encode_of_hex hex).symm.trans long, hex⟩

theorem exists_value (byte : UInt8) : ∃ half : Fin 16, value byte = UInt8.ofNat half := by
  revert byte
  apply Bytes.forall_byte
  decide +kernel

theorem halves_join (high low : Fin 16) :
    (UInt8.ofNat high <<< 4 ||| UInt8.ofNat low) >>> 4 = UInt8.ofNat high ∧
      (UInt8.ofNat high <<< 4 ||| UInt8.ofNat low) &&& 0xF = UInt8.ofNat low := by
  revert high low
  decide

/-- Bytes in pairs are written again as the digits that they were read as. -/
theorem digits_decode {text : Bytes} (even : text.length % 2 = 0) :
    digits (decode text) = text.map fun byte => digit (value byte) := by
  match text with
  | [] => rfl
  | [_] => cases even
  | high :: low :: rest =>
      have later : rest.length % 2 = 0 := by
        rw [List.length_cons, List.length_cons] at even
        omega
      obtain ⟨highHalf, highValue⟩ := exists_value high
      obtain ⟨lowHalf, lowValue⟩ := exists_value low
      obtain ⟨above, below⟩ := halves_join highHalf lowHalf
      rw [decode, digits_cons, digits_decode later, List.map_cons, List.map_cons, highValue,
        lowValue, above, below]

theorem length_decode (text : Bytes) : (decode text).length = (text.length + 1) / 2 := by
  match text with
  | [] => rfl
  | [_] => simp [decode]
  | _ :: _ :: rest =>
      rw [decode, List.length_cons, length_decode rest, List.length_cons, List.length_cons]
      omega

/-- Bytes in pairs are written again as they were read. -/
theorem encode_decode {text : Bytes} (even : text.length % 2 = 0) :
    encode (decode text) = String.ofList (text.map readAs) := by
  rw [encode, digits_decode even, List.map_map]
  exact congrArg String.ofList (List.map_congr_left fun byte _ => ofNat_digit_value byte)

/-- A text of digits is written again as it was, but for the case of letters. -/
theorem encode_decode_of_hex {text : String} (even : (Utf8.encode text).length % 2 = 0)
    (hex : ∀ character ∈ text.toList, isDigit character = true) :
    encode (decode (Utf8.encode text)) = text.map Char.toUpper := by
  rw [encode_decode even, map_readAs_encode hex]
  apply String.toList_inj.mp
  rw [String.toList_ofList, String.toList_map]

/-- A block that a text fills exactly is written as the text was read. -/
theorem toHex_decodeText {size : Nat} {text : String}
    (long : (Utf8.encode text).length = 2 * size) :
    (decodeText size text).toHex = String.ofList ((Utf8.encode text).map readAs) := by
  have exact : (decode (Utf8.encode text)).length = size := by
    rw [length_decode, long]
    omega
  have even : (Utf8.encode text).length % 2 = 0 := by omega
  rw [Block.toHex, decodeText, Block.bytes_fit, Bytes.fit_of_length_eq exact,
    encode_decode even]

theorem toHex_decodeText_of_isNumber {size : Nat} {text : String}
    (number : IsNumber (2 * size) text) :
    (decodeText size text).toHex = text.map Char.toUpper := by
  rw [toHex_decodeText (isNumber_iff.mp number).1, map_readAs_encode number.2]
  apply String.toList_inj.mp
  rw [String.toList_ofList, String.toList_map]

theorem isDigit_readAs (byte : UInt8) : isDigit (readAs byte) = true := by
  revert byte
  apply Bytes.forall_byte
  decide +kernel

theorem isDigit_of_toUpper {character : Char} (hex : isDigit character.toUpper = true) :
    isDigit character = true := by
  by_cases ascii : character.toNat < 128
  · revert hex
    revert character
    apply Utf8.forall_ascii
    decide
  · have unchanged : character.toUpper = character := by
      refine dif_neg fun lower => ?_
      exact ascii (Nat.lt_of_le_of_lt lower.2 (by decide))
    rwa [unchanged] at hex

/-- A text is written again as it was, but for the case of letters, exactly if it
has nothing but digits. -/
theorem toHex_decodeText_eq_iff {size : Nat} {text : String}
    (long : (Utf8.encode text).length = 2 * size) :
    (decodeText size text).toHex = text.map Char.toUpper ↔ IsNumber (2 * size) text := by
  constructor
  · intro same
    rw [toHex_decodeText long] at same
    have characters := congrArg String.toList same
    rw [String.toList_ofList, String.toList_map] at characters
    apply isNumber_iff.mpr
    refine ⟨long, (isHexText_iff text).mpr ?_⟩
    intro character member
    have upper := List.mem_map_of_mem (f := Char.toUpper) member
    rw [← characters] at upper
    obtain ⟨byte, _, read⟩ := List.mem_map.mp upper
    apply isDigit_of_toUpper
    rw [← read]
    exact isDigit_readAs byte
  · exact toHex_decodeText_of_isNumber

theorem toHex_injective {size : Nat} {left right : Block size}
    (same : left.toHex = right.toHex) : left = right := by
  rw [← decodeText_encode left, ← decodeText_encode right]
  exact congrArg (decodeText size) same

theorem isNumber_of_toUpper {size : Nat} {block : Block size} {text : String}
    (written : text.map Char.toUpper = block.toHex) : IsNumber (2 * size) text := by
  constructor
  · have lengths := congrArg String.length written
    rw [String.length_map, Block.toHex, encode, String.length_ofList, List.length_map,
      length_digits, block.length_bytes] at lengths
    exact lengths
  · intro character member
    apply isDigit_of_toUpper
    apply (isHexText_iff block.toHex).mp (isHexText_encode block.bytes)
    rw [← written, String.toList_map]
    exact List.mem_map_of_mem member

/-- A block is read back from its digits in any case of letters. -/
theorem decodeText_of_toUpper {size : Nat} {block : Block size} {text : String}
    (written : text.map Char.toUpper = block.toHex) : decodeText size text = block := by
  apply toHex_injective
  rw [toHex_decodeText_of_isNumber (isNumber_of_toUpper written), written]

/-- Digits are written in upper case. -/
theorem map_toUpper_toHex {size : Nat} (block : Block size) :
    block.toHex.map Char.toUpper = block.toHex := by
  have number : IsNumber (2 * size) block.toHex := by
    rw [isNumber_iff, Block.toHex, encode_encode, length_digits, block.length_bytes]
    exact ⟨rfl, isHexText_encode block.bytes⟩
  have back : decodeText size block.toHex = block := decodeText_encode block
  rw [← toHex_decodeText_of_isNumber number, back]

/-- The value of the digit at a place of some characters, zero if there is none. -/
def digitAt (characters : Bytes) (place : Nat) : UInt8 :=
  (characters[place]?.bind digit?).getD 0

theorem digitAt_cons_zero (character : UInt8) (rest : Bytes) :
    digitAt (character :: rest) 0 = value character :=
  rfl

theorem digitAt_cons_succ (character : UInt8) (rest : Bytes) (place : Nat) :
    digitAt (character :: rest) (place + 1) = digitAt rest place :=
  rfl

theorem digitAt_nil (place : Nat) : digitAt [] place = 0 :=
  rfl

/-- Every byte is made of the two digits at its place. -/
theorem getD_decode (characters : Bytes) (index : Nat) :
    (decode characters).getD index 0 =
      digitAt characters (2 * index) <<< 4 ||| digitAt characters (2 * index + 1) := by
  match characters, index with
  | [], index =>
      rw [digitAt_nil, digitAt_nil]
      exact List.getD_nil
  | [high], 0 =>
      rw [Nat.mul_zero, digitAt_cons_zero, digitAt_cons_succ, digitAt_nil, UInt8.or_zero]
      rfl
  | [high], index + 1 =>
      rw [Nat.mul_succ, digitAt_cons_succ, digitAt_cons_succ, digitAt_nil, digitAt_nil]
      rfl
  | high :: low :: rest, 0 => rfl
  | high :: low :: rest, index + 1 =>
      rw [Nat.mul_succ, digitAt_cons_succ, digitAt_cons_succ, digitAt_cons_succ,
        digitAt_cons_succ, ← getD_decode rest index]
      rfl

/-- What a text is taken for: every byte of the block has the two digits at its place,
and a zero where there is no digit. -/
def TakenFor (text : String) {size : Nat} (block : Block size) : Prop :=
  ∀ index < size, (block.byteAt index).toNat =
    16 * (digitAt (Utf8.encode text) (2 * index)).toNat +
      (digitAt (Utf8.encode text) (2 * index + 1)).toNat

theorem exists_digitAt (characters : Bytes) (place : Nat) :
    ∃ half : Fin 16, digitAt characters place = UInt8.ofNat half := by
  unfold digitAt
  cases characters[place]? with
  | none => exact ⟨0, rfl⟩
  | some character => exact exists_value character

theorem toNat_join (high low : Fin 16) :
    (UInt8.ofNat high <<< 4 ||| UInt8.ofNat low).toNat =
      16 * (UInt8.ofNat high).toNat + (UInt8.ofNat low).toNat := by
  have number {count : Nat} (small : count < 256) : (UInt8.ofNat count).toNat = count :=
    UInt8.toNat_ofNat_of_lt' small
  rw [join_halves, number (by omega), number (by omega), number (by omega)]

/-- Reading a text never fails: it is taken for a block of any size. -/
theorem takenFor_decodeText (size : Nat) (text : String) :
    TakenFor text (decodeText size text) := by
  intro index within
  obtain ⟨high, above⟩ := exists_digitAt (Utf8.encode text) (2 * index)
  obtain ⟨low, below⟩ := exists_digitAt (Utf8.encode text) (2 * index + 1)
  have byte : (decodeText size text).byteAt index =
      (decode (Utf8.encode text)).getD index 0 := Bytes.getD_fit _ within
  rw [byte, getD_decode, above, below, toNat_join]

end Hex

end Gamecard
