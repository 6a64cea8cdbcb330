import Gamecard.Bytes

/-!
# Blocks

Keys, digests and the fixed structures of a card are byte strings whose length
is known beforehand.  A block carries that length in its type, so a function
on keys cannot be handed anything shorter or longer.
-/

namespace Gamecard

/-- A byte string of exactly `size` bytes. -/
structure Block (size : Nat) where
  bytes : Bytes
  length_bytes : bytes.length = size
deriving DecidableEq

namespace Block

variable {size : Nat}

@[ext] theorem ext {left right : Block size}
    (same : left.bytes = right.bytes) : left = right := by
  cases left
  cases right
  cases same
  rfl

def zero (size : Nat) : Block size :=
  ⟨Bytes.zeros size, Bytes.length_zeros size⟩

instance : Inhabited (Block size) :=
  ⟨zero size⟩

/-- The block with exactly these bytes, if there are as many as it holds. -/
def ofBytes? (size : Nat) (bytes : Bytes) : Option (Block size) :=
  if exact : bytes.length = size then some ⟨bytes, exact⟩ else none

/-- The block that starts with these bytes, cut off or padded with zeros. -/
def fit (size : Nat) (bytes : Bytes) : Block size :=
  ⟨bytes.fit size, Bytes.length_fit size bytes⟩

def slice (block : Block size) (offset length : Nat)
    (within : offset + length ≤ size := by decide) : Block length :=
  ⟨block.bytes.slice offset length,
    Bytes.length_slice_of_le (by rw [block.length_bytes]; exact within)⟩

def isSet (block : Block size) : Bool :=
  !block.bytes.isZero

/-- The block, unless all its bytes are zero. -/
def nonzero? (block : Block size) : Option (Block size) :=
  if block.isSet then some block else none

def xor (left right : Block size) : Block size :=
  ⟨left.bytes.xor right.bytes, by
    simp [left.length_bytes, right.length_bytes]⟩

def numberAt (block : Block size) (offset width : Nat) : Nat :=
  block.bytes.numberAt offset width

/-- The byte at `offset`; zero past the end. -/
def byteAt (block : Block size) (offset : Nat) : UInt8 :=
  block.bytes.getD offset 0

@[simp] theorem bytes_fit (bytes : Bytes) :
    (fit size bytes).bytes = bytes.fit size :=
  rfl

theorem ofBytes?_bytes (block : Block size) :
    ofBytes? size block.bytes = some block := by
  simp [ofBytes?, block.length_bytes]

theorem ofBytes?_eq_some_iff {bytes : Bytes} {block : Block size} :
    ofBytes? size bytes = some block ↔ bytes = block.bytes := by
  constructor
  · intro found
    unfold ofBytes? at found
    split at found
    · cases found
      rfl
    · cases found
  · intro same
    subst same
    exact ofBytes?_bytes block

theorem ofBytes?_eq_none_iff {bytes : Bytes} :
    ofBytes? size bytes = none ↔ bytes.length ≠ size := by
  simp [ofBytes?]

theorem nonzero?_eq_some_iff {block result : Block size} :
    block.nonzero? = some result ↔ block.isSet = true ∧ result = block := by
  unfold nonzero?
  by_cases set : block.isSet = true
  · simp [set, eq_comm]
  · simp [set]

theorem eq_zero_of_isZero {block : Block size} (unset : block.bytes.isZero = true) :
    block = zero size := by
  apply ext
  apply List.eq_replicate_iff.mpr
  refine ⟨block.length_bytes, ?_⟩
  intro byte member
  exact beq_iff_eq.mp (List.all_eq_true.mp unset byte member)

end Block

end Gamecard
