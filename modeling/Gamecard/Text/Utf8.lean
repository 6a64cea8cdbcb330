import Gamecard.Bytes

/-!
# UTF-8

Text is stored as the UTF-8 encoding of its characters.  `decode?` accepts
exactly the encodings of strings.  For messages there is also a reading that
never fails: `decodeLossy` puts one replacement character in place of every
longest run of bytes that begins a character but does not complete one.
-/

namespace Gamecard.Utf8

def encode (text : String) : Bytes :=
  text.toByteArray.data.toList

def decode? (bytes : Bytes) : Option String :=
  String.fromUTF8? ⟨bytes.toArray⟩

theorem decode?_encode (text : String) : decode? (encode text) = some text := by
  have same : (⟨(encode text).toArray⟩ : ByteArray) = text.toByteArray := by
    simp [encode]
  rw [decode?, same, String.fromUTF8?, dif_pos text.isValidUTF8]
  rfl

theorem eq_encode_of_decode? {bytes : Bytes} {text : String}
    (decoded : decode? bytes = some text) : bytes = encode text := by
  simp only [decode?, String.fromUTF8?] at decoded
  split at decoded
  · cases decoded
    rfl
  · cases decoded

theorem decode?_eq_some_iff {bytes : Bytes} {text : String} :
    decode? bytes = some text ↔ bytes = encode text :=
  ⟨eq_encode_of_decode?, fun same => same ▸ decode?_encode text⟩

def isContinuation (byte : UInt8) : Bool :=
  0x80 ≤ byte && byte ≤ 0xBF

/-- How many bytes a character takes that starts with this byte, and whether a
byte may come second.  No character starts with a byte that gives `none`. -/
def lead? (byte : UInt8) : Option (Nat × (UInt8 → Bool)) :=
  if byte < 0x80 then some (1, isContinuation)
  else if byte < 0xC2 then none
  else if byte < 0xE0 then some (2, isContinuation)
  else if byte == 0xE0 then some (3, fun second => 0xA0 ≤ second && second ≤ 0xBF)
  else if byte == 0xED then some (3, fun second => 0x80 ≤ second && second ≤ 0x9F)
  else if byte < 0xF0 then some (3, isContinuation)
  else if byte == 0xF0 then some (4, fun second => 0x90 ≤ second && second ≤ 0xBF)
  else if byte < 0xF4 then some (4, isContinuation)
  else if byte == 0xF4 then some (4, fun second => 0x80 ≤ second && second ≤ 0x8F)
  else none

/-- The length of the longest beginning of a character that follows the first
byte, given the number of bytes still wanted. -/
def matched (second : UInt8 → Bool) (wanted : Nat) (rest : Bytes) : Nat :=
  match rest with
  | [] => 0
  | byte :: later =>
    if wanted = 0 || !second byte then 0
    else 1 + ((later.take (wanted - 1)).takeWhile isContinuation).length

/-- Splits the bytes into encodings of characters, given as `true`, and
malformed runs between them. -/
def runs (bytes : Bytes) : List (Bool × Bytes) :=
  match bytes with
  | [] => []
  | byte :: rest =>
    match lead? byte with
    | none => (false, [byte]) :: runs rest
    | some (size, second) =>
      let extra := matched second (size - 1) rest
      (extra + 1 == size, byte :: rest.take extra) :: runs (rest.drop extra)
termination_by bytes.length
decreasing_by
  all_goals simp only [List.length_cons, List.length_drop]
  all_goals omega

/-- The text of the bytes, with U+FFFD for every malformed run. -/
def decodeLossy (bytes : Bytes) : String :=
  String.join ((runs bytes).map fun run =>
    if run.1 then (decode? run.2).getD "\ufffd" else "\ufffd")

end Gamecard.Utf8
