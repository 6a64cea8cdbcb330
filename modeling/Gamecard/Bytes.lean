/-!
# Byte strings

Images, keys and file contents are lists of bytes.  This module has the
operations shared by all of them: cutting a range out, testing for zero, and
reading or writing unsigned numbers of a fixed width in either byte order.
-/

namespace Gamecard

abbrev Bytes := List UInt8

namespace Bytes

def slice (offset length : Nat) (bytes : Bytes) : Bytes :=
  (bytes.drop offset).take length

def zeros (count : Nat) : Bytes :=
  List.replicate count 0

def isZero (bytes : Bytes) : Bool :=
  bytes.all (· == 0)

/-- The first `size` bytes, padded with zeros when there are fewer. -/
def fit (size : Nat) (bytes : Bytes) : Bytes :=
  bytes.take size ++ zeros (size - bytes.length)

def littleEndian : Bytes → Nat
  | [] => 0
  | byte :: rest => byte.toNat + 256 * littleEndian rest

/-- The low `width` bytes of a number, least significant first. -/
def ofLittleEndian : Nat → Nat → Bytes
  | 0, _ => []
  | width + 1, value => UInt8.ofNat value :: ofLittleEndian width (value / 256)

def bigEndian (bytes : Bytes) : Nat :=
  littleEndian bytes.reverse

def ofBigEndian (width value : Nat) : Bytes :=
  (ofLittleEndian width value).reverse

def numberAt (offset width : Nat) (bytes : Bytes) : Nat :=
  littleEndian (bytes.slice offset width)

/-- Byte by byte exclusive or, as long as the shorter string. -/
def xor (left right : Bytes) : Bytes :=
  List.zipWith (· ^^^ ·) left right

/-- The first `count` pieces of `size` bytes each. -/
def pieces (size : Nat) : Nat → Bytes → List Bytes
  | 0, _ => []
  | count + 1, bytes => bytes.take size :: pieces size count (bytes.drop size)

@[simp] theorem length_zeros (count : Nat) : (zeros count).length = count := by
  simp [zeros]

theorem length_slice (offset length : Nat) (bytes : Bytes) :
    (bytes.slice offset length).length = min length (bytes.length - offset) := by
  simp [slice]

theorem length_slice_of_le {offset length : Nat} {bytes : Bytes}
    (within : offset + length ≤ bytes.length) :
    (bytes.slice offset length).length = length := by
  rw [length_slice]
  omega

@[simp] theorem length_fit (size : Nat) (bytes : Bytes) :
    (bytes.fit size).length = size := by
  simp only [fit, List.length_append, List.length_take, length_zeros]
  omega

theorem fit_of_length_eq {size : Nat} {bytes : Bytes}
    (exact : bytes.length = size) : bytes.fit size = bytes := by
  subst exact
  simp [fit, zeros]

@[simp] theorem length_ofLittleEndian (width value : Nat) :
    (ofLittleEndian width value).length = width := by
  induction width generalizing value with
  | zero => rfl
  | succ width induction => simp [ofLittleEndian, induction]

@[simp] theorem length_ofBigEndian (width value : Nat) :
    (ofBigEndian width value).length = width := by
  simp [ofBigEndian]

@[simp] theorem length_xor (left right : Bytes) :
    (left.xor right).length = min left.length right.length := by
  simp [xor]

end Bytes

end Gamecard
