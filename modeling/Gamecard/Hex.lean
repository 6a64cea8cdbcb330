import Gamecard.Bytes

/-!
# Hexadecimal text

Bytes are written as two upper-case digits each.  Reading takes digits of
either case and never fails by itself: a character that is no digit counts as
zero, so callers that care test `isHex` first.  Reading undoes writing.
-/

namespace Gamecard.Hex

def digit? (character : UInt8) : Option UInt8 :=
  if 0x30 ≤ character ∧ character ≤ 0x39 then some (character - 0x30)
  else if 0x41 ≤ character ∧ character ≤ 0x46 then some (character - 0x37)
  else if 0x61 ≤ character ∧ character ≤ 0x66 then some (character - 0x57)
  else none

def isHex (text : Bytes) : Bool :=
  text.all fun character => (digit? character).isSome

/-- The value of a digit, any other character counting as zero. -/
def value (character : UInt8) : UInt8 :=
  (digit? character).getD 0

/-- The bytes that pairs of digits stand for; a last digit without a partner is
the high half of its byte. -/
def decode : Bytes → Bytes
  | [] => []
  | [high] => [value high <<< 4]
  | high :: low :: rest => (value high <<< 4 ||| value low) :: decode rest

def digit (value : UInt8) : UInt8 :=
  if value < 10 then 0x30 + value else 0x37 + value

def pair (byte : UInt8) : Bytes :=
  [digit (byte >>> 4), digit (byte &&& 0xF)]

def digits (bytes : Bytes) : Bytes :=
  bytes.flatMap pair

def encode (bytes : Bytes) : String :=
  String.ofList ((digits bytes).map fun character => Char.ofNat character.toNat)

def ofNat (width number : Nat) : String :=
  let digits := Nat.toDigits 16 number
  String.ofList (List.replicate (width - digits.length) '0' ++ digits)

def marked (number : Nat) : String :=
  "0x" ++ ofNat 1 number

theorem value_digit (half : Fin 16) :
    value (digit (UInt8.ofNat half)) = UInt8.ofNat half := by
  revert half
  decide

theorem digit?_digit (half : Fin 16) :
    digit? (digit (UInt8.ofNat half)) = some (UInt8.ofNat half) := by
  revert half
  decide

end Gamecard.Hex
