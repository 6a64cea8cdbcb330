import Gamecard.Block
import Gamecard.Storage

/-!
# Guarded operations

The program computes with words of sixty-four bits and copies between buffers.  A sum
that is no word, a difference below zero, a range that a buffer does not have or a copy
between buffers of different lengths stops it for good, which is no error that a caller
sees.  Accesses leave this out.  A guarded operation does the same with every such step
in its place, so that it can be told whether the program gets past all of them.
-/

namespace Gamecard

/-- An operation that stops the program, or else comes to an access. -/
inductive Guarded (ε α : Type) where
  | stopped
  | done (access : Access ε α)

namespace Guarded

variable {ε δ α β : Type}

/-- One operation and, if it succeeds, another one on its value. -/
def andThen (guarded : Guarded ε α) (next : α → Guarded ε β) : Guarded ε β :=
  match guarded with
  | .stopped => .stopped
  | .done access =>
    match access.result with
    | .error error => .done ⟨.error error, access.reads⟩
    | .ok value =>
      match next value with
      | .stopped => .stopped
      | .done later => .done ⟨later.result, access.reads ++ later.reads⟩

instance : Monad (Guarded ε) where
  pure value := .done (pure value)
  bind := andThen

def fail (error : ε) : Guarded ε α :=
  .done (.fail error)

def ofExcept (result : Except ε α) : Guarded ε α :=
  .done (.ofExcept result)

def mapError (change : ε → δ) : Guarded ε α → Guarded δ α
  | .stopped => .stopped
  | .done access => .done (access.mapError change)

def attempt : Guarded ε α → Guarded δ (Except ε α)
  | .stopped => .stopped
  | .done access => .done access.attempt

/-- Asks for a range of the underlying bytes. -/
def ask (extent : Extent) : Guarded ε Unit :=
  .done ⟨.ok (), [extent]⟩

/-- The first number that is no word. -/
def wordLimit : Nat := 0x10000000000000000

/-- The greatest number of bytes that a buffer can have. -/
def roomLimit : Nat := 0x7FFFFFFFFFFFFFFF

/-- Goes on with a value if a condition holds, and stops otherwise. -/
def when (condition : Prop) [Decidable condition] (value : α) : Guarded ε α :=
  if condition then pure value else .stopped

def add (left right : Nat) : Guarded ε Nat :=
  when (left + right < wordLimit) (left + right)

def mul (left right : Nat) : Guarded ε Nat :=
  when (left * right < wordLimit) (left * right)

def sub (left right : Nat) : Guarded ε Nat :=
  when (right ≤ left) (left - right)

/-- A length that a new buffer can have. -/
def room (length : Nat) : Guarded ε Nat :=
  when (length ≤ roomLimit) length

/-- The range of a buffer from one place to another. -/
def cut (bytes : Bytes) (start stop : Nat) : Guarded ε Bytes :=
  when (start ≤ stop ∧ stop ≤ bytes.length) (bytes.slice start (stop - start))

/-- The range copied into a buffer of `length` bytes. -/
def copied (length : Nat) (range : Bytes) : Guarded ε Bytes :=
  when (range.length = length) range

/-- The number in the first `width` bytes of a range. -/
def number (width : Nat) (range : Bytes) : Guarded ε Nat :=
  when (width ≤ range.length) (range.numberAt 0 width)

/-- The byte at a place. -/
def byte (bytes : Bytes) (place : Nat) : Guarded ε UInt8 :=
  when (place < bytes.length) (bytes.getD place 0)

end Guarded

namespace Alignment

/-- Clearing bits leaves a word a word, but the bits have to be there. -/
def downGuarded {ε : Type} (address alignment : Nat) : Guarded ε Nat := do
  let _ ← Guarded.sub alignment 1
  pure (down address alignment)

def upGuarded {ε : Type} (address alignment : Nat) : Guarded ε Nat := do
  let raised ← Guarded.add address (← Guarded.sub alignment 1)
  downGuarded raised alignment

end Alignment

namespace Storage

open Guarded (add sub room cut copied)

/-- A read with all that it computes.  Bounds are compared by a sum that is checked. -/
def readGuarded : Storage → Nat → Nat → Guarded IoError Bytes
  | .memory bytes, offset, length => do
    Guarded.ask ⟨offset, length⟩
    if offset + length ≤ bytes.length then
      let range ← cut bytes offset (← add offset length)
      copied length range
    else .fail (.pastEnd length offset bytes.length)
  -- The system reads from a file, so nothing is computed.
  | .file path size contents, offset, length =>
    .done ((Storage.file path size contents).read offset length)
  | .window inner start size, offset, length => do
    if offset + length ≤ size then
      inner.readGuarded (← add start offset) length
    else .fail (.pastEnd length offset size)
  | .paged inner alignment, offset, length => do
    if inner.size < offset + length then .fail (.pastEnd length offset inner.size)
    else if length = 0 then pure []
    else
      let first ← Alignment.downGuarded offset alignment
      let last ← Alignment.upGuarded (← add offset length) alignment
      let stop := min last inner.size
      if first = offset ∧ stop = (← add offset length) then inner.readGuarded offset length
      else
        let bulk ← inner.readGuarded first (← room (← sub stop first))
        let skip ← sub offset first
        let range ← cut bulk skip (← add skip length)
        copied length range

/-- The storage read in blocks, whose size has to be a power of two. -/
def pagedGuarded {ε : Type} (storage : Storage) (alignment : Nat) : Guarded ε Storage :=
  Guarded.when (Alignment.isPowerOfTwo alignment = true) (.paged storage alignment)

end Storage

end Gamecard
