import Gamecard.Block

/-!
# AES-128

The block cipher of FIPS 197 with a key of sixteen bytes.  The state is four
columns of four bytes.  Decryption undoes the rounds of encryption one by one,
last round first, so that each step has its inverse next to it.
-/

namespace Gamecard

abbrev Key := Block 16

abbrev XtsKey := Block 32

namespace Aes

structure Column where
  a : UInt8
  b : UInt8
  c : UInt8
  d : UInt8
deriving DecidableEq

structure State where
  first : Column
  second : Column
  third : Column
  fourth : Column
deriving DecidableEq

def substitution : Array UInt8 := #[
  0x63, 0x7C, 0x77, 0x7B, 0xF2, 0x6B, 0x6F, 0xC5, 0x30, 0x01, 0x67, 0x2B,
  0xFE, 0xD7, 0xAB, 0x76, 0xCA, 0x82, 0xC9, 0x7D, 0xFA, 0x59, 0x47, 0xF0,
  0xAD, 0xD4, 0xA2, 0xAF, 0x9C, 0xA4, 0x72, 0xC0, 0xB7, 0xFD, 0x93, 0x26,
  0x36, 0x3F, 0xF7, 0xCC, 0x34, 0xA5, 0xE5, 0xF1, 0x71, 0xD8, 0x31, 0x15,
  0x04, 0xC7, 0x23, 0xC3, 0x18, 0x96, 0x05, 0x9A, 0x07, 0x12, 0x80, 0xE2,
  0xEB, 0x27, 0xB2, 0x75, 0x09, 0x83, 0x2C, 0x1A, 0x1B, 0x6E, 0x5A, 0xA0,
  0x52, 0x3B, 0xD6, 0xB3, 0x29, 0xE3, 0x2F, 0x84, 0x53, 0xD1, 0x00, 0xED,
  0x20, 0xFC, 0xB1, 0x5B, 0x6A, 0xCB, 0xBE, 0x39, 0x4A, 0x4C, 0x58, 0xCF,
  0xD0, 0xEF, 0xAA, 0xFB, 0x43, 0x4D, 0x33, 0x85, 0x45, 0xF9, 0x02, 0x7F,
  0x50, 0x3C, 0x9F, 0xA8, 0x51, 0xA3, 0x40, 0x8F, 0x92, 0x9D, 0x38, 0xF5,
  0xBC, 0xB6, 0xDA, 0x21, 0x10, 0xFF, 0xF3, 0xD2, 0xCD, 0x0C, 0x13, 0xEC,
  0x5F, 0x97, 0x44, 0x17, 0xC4, 0xA7, 0x7E, 0x3D, 0x64, 0x5D, 0x19, 0x73,
  0x60, 0x81, 0x4F, 0xDC, 0x22, 0x2A, 0x90, 0x88, 0x46, 0xEE, 0xB8, 0x14,
  0xDE, 0x5E, 0x0B, 0xDB, 0xE0, 0x32, 0x3A, 0x0A, 0x49, 0x06, 0x24, 0x5C,
  0xC2, 0xD3, 0xAC, 0x62, 0x91, 0x95, 0xE4, 0x79, 0xE7, 0xC8, 0x37, 0x6D,
  0x8D, 0xD5, 0x4E, 0xA9, 0x6C, 0x56, 0xF4, 0xEA, 0x65, 0x7A, 0xAE, 0x08,
  0xBA, 0x78, 0x25, 0x2E, 0x1C, 0xA6, 0xB4, 0xC6, 0xE8, 0xDD, 0x74, 0x1F,
  0x4B, 0xBD, 0x8B, 0x8A, 0x70, 0x3E, 0xB5, 0x66, 0x48, 0x03, 0xF6, 0x0E,
  0x61, 0x35, 0x57, 0xB9, 0x86, 0xC1, 0x1D, 0x9E, 0xE1, 0xF8, 0x98, 0x11,
  0x69, 0xD9, 0x8E, 0x94, 0x9B, 0x1E, 0x87, 0xE9, 0xCE, 0x55, 0x28, 0xDF,
  0x8C, 0xA1, 0x89, 0x0D, 0xBF, 0xE6, 0x42, 0x68, 0x41, 0x99, 0x2D, 0x0F,
  0xB0, 0x54, 0xBB, 0x16]

def inverseSubstitution : Array UInt8 := #[
  0x52, 0x09, 0x6A, 0xD5, 0x30, 0x36, 0xA5, 0x38, 0xBF, 0x40, 0xA3, 0x9E,
  0x81, 0xF3, 0xD7, 0xFB, 0x7C, 0xE3, 0x39, 0x82, 0x9B, 0x2F, 0xFF, 0x87,
  0x34, 0x8E, 0x43, 0x44, 0xC4, 0xDE, 0xE9, 0xCB, 0x54, 0x7B, 0x94, 0x32,
  0xA6, 0xC2, 0x23, 0x3D, 0xEE, 0x4C, 0x95, 0x0B, 0x42, 0xFA, 0xC3, 0x4E,
  0x08, 0x2E, 0xA1, 0x66, 0x28, 0xD9, 0x24, 0xB2, 0x76, 0x5B, 0xA2, 0x49,
  0x6D, 0x8B, 0xD1, 0x25, 0x72, 0xF8, 0xF6, 0x64, 0x86, 0x68, 0x98, 0x16,
  0xD4, 0xA4, 0x5C, 0xCC, 0x5D, 0x65, 0xB6, 0x92, 0x6C, 0x70, 0x48, 0x50,
  0xFD, 0xED, 0xB9, 0xDA, 0x5E, 0x15, 0x46, 0x57, 0xA7, 0x8D, 0x9D, 0x84,
  0x90, 0xD8, 0xAB, 0x00, 0x8C, 0xBC, 0xD3, 0x0A, 0xF7, 0xE4, 0x58, 0x05,
  0xB8, 0xB3, 0x45, 0x06, 0xD0, 0x2C, 0x1E, 0x8F, 0xCA, 0x3F, 0x0F, 0x02,
  0xC1, 0xAF, 0xBD, 0x03, 0x01, 0x13, 0x8A, 0x6B, 0x3A, 0x91, 0x11, 0x41,
  0x4F, 0x67, 0xDC, 0xEA, 0x97, 0xF2, 0xCF, 0xCE, 0xF0, 0xB4, 0xE6, 0x73,
  0x96, 0xAC, 0x74, 0x22, 0xE7, 0xAD, 0x35, 0x85, 0xE2, 0xF9, 0x37, 0xE8,
  0x1C, 0x75, 0xDF, 0x6E, 0x47, 0xF1, 0x1A, 0x71, 0x1D, 0x29, 0xC5, 0x89,
  0x6F, 0xB7, 0x62, 0x0E, 0xAA, 0x18, 0xBE, 0x1B, 0xFC, 0x56, 0x3E, 0x4B,
  0xC6, 0xD2, 0x79, 0x20, 0x9A, 0xDB, 0xC0, 0xFE, 0x78, 0xCD, 0x5A, 0xF4,
  0x1F, 0xDD, 0xA8, 0x33, 0x88, 0x07, 0xC7, 0x31, 0xB1, 0x12, 0x10, 0x59,
  0x27, 0x80, 0xEC, 0x5F, 0x60, 0x51, 0x7F, 0xA9, 0x19, 0xB5, 0x4A, 0x0D,
  0x2D, 0xE5, 0x7A, 0x9F, 0x93, 0xC9, 0x9C, 0xEF, 0xA0, 0xE0, 0x3B, 0x4D,
  0xAE, 0x2A, 0xF5, 0xB0, 0xC8, 0xEB, 0xBB, 0x3C, 0x83, 0x53, 0x99, 0x61,
  0x17, 0x2B, 0x04, 0x7E, 0xBA, 0x77, 0xD6, 0x26, 0xE1, 0x69, 0x14, 0x63,
  0x55, 0x21, 0x0C, 0x7D]

def substitute (byte : UInt8) : UInt8 :=
  substitution.getD byte.toNat 0

def unsubstitute (byte : UInt8) : UInt8 :=
  inverseSubstitution.getD byte.toNat 0

/-- Multiplication by x in the field of 256 elements. -/
def double (byte : UInt8) : UInt8 :=
  byte <<< 1 ^^^ (byte >>> 7) * 0x1B

namespace Column

def map (change : UInt8 → UInt8) (column : Column) : Column :=
  ⟨change column.a, change column.b, change column.c, change column.d⟩

def xor (left right : Column) : Column :=
  ⟨left.a ^^^ right.a, left.b ^^^ right.b, left.c ^^^ right.c, left.d ^^^ right.d⟩

def rotate (column : Column) : Column :=
  ⟨column.b, column.c, column.d, column.a⟩

/-- One byte of a mixed column: twice the first, three times the second. -/
def blend (a b c d : UInt8) : UInt8 :=
  double a ^^^ (double b ^^^ b) ^^^ c ^^^ d

/-- Multiplication by the fixed polynomial of the standard. -/
def mix (column : Column) : Column :=
  let ⟨a, b, c, d⟩ := column
  ⟨blend a b c d, blend b c d a, blend c d a b, blend d a b c⟩

/-- One byte of an unmixed column: fourteen, eleven, thirteen and nine times. -/
def unblend (a b c d : UInt8) : UInt8 :=
  double (double (double (a ^^^ b ^^^ c ^^^ d) ^^^ a ^^^ c) ^^^ a ^^^ b) ^^^ b ^^^ c ^^^ d

def unmix (column : Column) : Column :=
  let ⟨a, b, c, d⟩ := column
  ⟨unblend a b c d, unblend b c d a, unblend c d a b, unblend d a b c⟩

end Column

namespace State

def map (change : Column → Column) (state : State) : State :=
  ⟨change state.first, change state.second, change state.third, change state.fourth⟩

def xor (left right : State) : State :=
  ⟨left.first.xor right.first, left.second.xor right.second,
    left.third.xor right.third, left.fourth.xor right.fourth⟩

def shift (state : State) : State :=
  let ⟨first, second, third, fourth⟩ := state
  ⟨⟨first.a, second.b, third.c, fourth.d⟩, ⟨second.a, third.b, fourth.c, first.d⟩,
    ⟨third.a, fourth.b, first.c, second.d⟩, ⟨fourth.a, first.b, second.c, third.d⟩⟩

def unshift (state : State) : State :=
  let ⟨first, second, third, fourth⟩ := state
  ⟨⟨first.a, fourth.b, third.c, second.d⟩, ⟨second.a, first.b, fourth.c, third.d⟩,
    ⟨third.a, second.b, first.c, fourth.d⟩, ⟨fourth.a, third.b, second.c, first.d⟩⟩

def ofBlock (block : Key) : State :=
  let column (start : Nat) : Column :=
    ⟨block.byteAt start, block.byteAt (start + 1), block.byteAt (start + 2),
      block.byteAt (start + 3)⟩
  ⟨column 0, column 4, column 8, column 12⟩

def toBlock (state : State) : Key :=
  let ⟨p, q, r, s⟩ := state
  ⟨[p.a, p.b, p.c, p.d, q.a, q.b, q.c, q.d, r.a, r.b, r.c, r.d, s.a, s.b, s.c, s.d], rfl⟩

/-- The round key after this one. -/
def nextKey (constant : UInt8) (key : State) : State :=
  let turned := key.fourth.rotate.map substitute
  let first := key.first.xor { turned with a := turned.a ^^^ constant }
  let second := key.second.xor first
  let third := key.third.xor second
  ⟨first, second, third, key.fourth.xor third⟩

end State

def keyConstants : List UInt8 :=
  [0x01, 0x02, 0x04, 0x08, 0x10, 0x20, 0x40, 0x80, 0x1B, 0x36]

def laterKeys : List UInt8 → State → List State
  | [], _ => []
  | constant :: rest, key =>
    let next := key.nextKey constant
    next :: laterKeys rest next

/-- The rounds with the given round keys; the last one leaves columns unmixed. -/
def rounds : List State → State → State
  | [], state => state
  | [key], state => ((state.map (Column.map substitute)).shift).xor key
  | key :: next :: rest, state =>
    rounds (next :: rest)
      ((((state.map (Column.map substitute)).shift).map Column.mix).xor key)

/-- The state that the rounds with the given round keys started from. -/
def unrounds : List State → State → State
  | [], state => state
  | [key], state => ((state.xor key).unshift).map (Column.map unsubstitute)
  | key :: next :: rest, state =>
    let later := unrounds (next :: rest) state
    (((later.xor key).map Column.unmix).unshift).map (Column.map unsubstitute)

def encrypt (key block : Key) : Key :=
  let start := State.ofBlock key
  (rounds (laterKeys keyConstants start) ((State.ofBlock block).xor start)).toBlock

def decrypt (key block : Key) : Key :=
  let start := State.ofBlock key
  ((unrounds (laterKeys keyConstants start) (State.ofBlock block)).xor start).toBlock

end Aes

end Gamecard
