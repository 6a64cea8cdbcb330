import Gamecard.Block

/-!
# SHA-256

The digest of FIPS 180-4.  A message is padded to whole blocks of sixty-four
bytes, and every block stirs its sixteen words, extended to sixty-four, into a
state of eight words.
-/

namespace Gamecard

abbrev Digest := Block 32

namespace Sha256

structure State where
  a : UInt32
  b : UInt32
  c : UInt32
  d : UInt32
  e : UInt32
  f : UInt32
  g : UInt32
  h : UInt32

def State.initial : State :=
  ⟨0x6A09E667, 0xBB67AE85, 0x3C6EF372, 0xA54FF53A,
    0x510E527F, 0x9B05688C, 0x1F83D9AB, 0x5BE0CD19⟩

def roundConstants : Array UInt32 := #[
  0x428A2F98, 0x71374491, 0xB5C0FBCF, 0xE9B5DBA5, 0x3956C25B, 0x59F111F1,
  0x923F82A4, 0xAB1C5ED5, 0xD807AA98, 0x12835B01, 0x243185BE, 0x550C7DC3,
  0x72BE5D74, 0x80DEB1FE, 0x9BDC06A7, 0xC19BF174, 0xE49B69C1, 0xEFBE4786,
  0x0FC19DC6, 0x240CA1CC, 0x2DE92C6F, 0x4A7484AA, 0x5CB0A9DC, 0x76F988DA,
  0x983E5152, 0xA831C66D, 0xB00327C8, 0xBF597FC7, 0xC6E00BF3, 0xD5A79147,
  0x06CA6351, 0x14292967, 0x27B70A85, 0x2E1B2138, 0x4D2C6DFC, 0x53380D13,
  0x650A7354, 0x766A0ABB, 0x81C2C92E, 0x92722C85, 0xA2BFE8A1, 0xA81A664B,
  0xC24B8B70, 0xC76C51A3, 0xD192E819, 0xD6990624, 0xF40E3585, 0x106AA070,
  0x19A4C116, 0x1E376C08, 0x2748774C, 0x34B0BCB5, 0x391C0CB3, 0x4ED8AA4A,
  0x5B9CCA4F, 0x682E6FF3, 0x748F82EE, 0x78A5636F, 0x84C87814, 0x8CC70208,
  0x90BEFFFA, 0xA4506CEB, 0xBEF9A3F7, 0xC67178F2]

/-- A word turned right by `count` bits. -/
def rotate (word count : UInt32) : UInt32 :=
  word >>> count ||| word <<< (32 - count)

def State.round (state : State) (input : UInt32) : State :=
  let ⟨a, b, c, d, e, f, g, h⟩ := state
  let stirred := rotate e 6 ^^^ rotate e 11 ^^^ rotate e 25
  let choice := (e &&& f) ^^^ (~~~e &&& g)
  let first := h + stirred + choice + input
  let mixed := rotate a 2 ^^^ rotate a 13 ^^^ rotate a 22
  let majority := (a &&& b) ^^^ (a &&& c) ^^^ (b &&& c)
  ⟨first + (mixed + majority), a, b, c, d + first, e, f, g⟩

def State.add (left right : State) : State :=
  ⟨left.a + right.a, left.b + right.b, left.c + right.c, left.d + right.d,
    left.e + right.e, left.f + right.f, left.g + right.g, left.h + right.h⟩

def State.words (state : State) : List UInt32 :=
  [state.a, state.b, state.c, state.d, state.e, state.f, state.g, state.h]

def word (bytes : Bytes) : UInt32 :=
  UInt32.ofNat (Bytes.bigEndian (bytes.take 4))

/-- The schedule with one more word, made from the last sixteen. -/
def extend (schedule : Array UInt32) : Array UInt32 :=
  let back (distance : Nat) := schedule.getD (schedule.size - distance) 0
  let near := back 2
  let far := back 15
  let nearMix := rotate near 17 ^^^ rotate near 19 ^^^ near >>> 10
  let farMix := rotate far 7 ^^^ rotate far 18 ^^^ far >>> 3
  schedule.push (back 16 + farMix + back 7 + nearMix)

def schedule (block : Bytes) : Array UInt32 :=
  let input := ((Bytes.pieces 4 16 block).map word).toArray
  (List.range 48).foldl (fun words _ => extend words) input

def compress (state : State) (block : Bytes) : State :=
  let inputs := Array.zipWith (· + ·) roundConstants (schedule block)
  state.add (inputs.foldl State.round state)

/-- What follows a message of `length` bytes: one set bit, zeros up to eight
bytes before the end of a block, and the length in bits. -/
def padding (length : Nat) : Bytes :=
  0x80 :: Bytes.zeros ((119 - length % 64) % 64) ++ Bytes.ofBigEndian 8 (8 * length)

def digest (message : Bytes) : Digest :=
  let padded := message ++ padding message.length
  let final := (Bytes.pieces 64 (padded.length / 64) padded).foldl compress State.initial
  Block.fit 32 (final.words.flatMap fun word => Bytes.ofBigEndian 4 word.toNat)

end Sha256

end Gamecard
