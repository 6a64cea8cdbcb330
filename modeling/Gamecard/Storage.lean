import Gamecard.Alignment
import Gamecard.Error
import Gamecard.Storage.Access

/-!
# Storages

A storage is a byte string that can be read at any place.  At its bottom are
bytes in memory or a file that is kept open.  On top of them there can be
windows, which show a range of the storage below, and page adapters, which ask
the storage below for whole pages only.  A read that would leave a storage
fails before anything below is asked.

An open file has the size that it had when it was opened, whatever becomes of
it.  What is read from it is what it holds now, and a read within its size of
bytes that it no longer holds stays unfilled.
-/

namespace Gamecard

/-- Bytes to read from. -/
inductive Storage where
  | memory (bytes : Bytes)
  /-- An open file: its path, the number of bytes it had when it was opened, and
  what it holds now. -/
  | file (path : String) (size : Nat) (contents : Bytes)
  | window (inner : Storage) (offset size : Nat)
  | paged (inner : Storage) (alignment : Nat)
deriving DecidableEq

namespace Storage

def size : Storage → Nat
  | .memory bytes => bytes.length
  | .file _ size _ => size
  | .window _ _ size => size
  | .paged inner _ => inner.size

/-- The part of a paged storage of `size` bytes that covers a range: whole
blocks, except that the last one ends with the storage. -/
def cover (alignment size offset length : Nat) : Extent :=
  let first := Alignment.down offset alignment
  let last := min (Alignment.up (offset + length) alignment) size
  ⟨first, last - first⟩

def read : Storage → Nat → Nat → Access IoError Bytes
  | .memory bytes, offset, length =>
    { reads := [⟨offset, length⟩]
      result :=
        if offset + length ≤ bytes.length then .ok (bytes.slice offset length)
        else .error (.pastEnd length offset bytes.length) }
  | .file _ size contents, offset, length =>
    { reads := [⟨offset, length⟩]
      result :=
        if offset + length ≤ size then
          if length = 0 ∨ offset + length ≤ contents.length then
            .ok (contents.slice offset length)
          else .error .unfilled
        else .error (.pastEnd length offset size) }
  | .window inner start size, offset, length =>
    if offset + length ≤ size then inner.read (start + offset) length
    else .fail (.pastEnd length offset size)
  | .paged inner alignment, offset, length =>
    if inner.size < offset + length then .fail (.pastEnd length offset inner.size)
    else if length = 0 then pure []
    else
      let block := cover alignment inner.size offset length
      if block = ⟨offset, length⟩ then inner.read offset length
      else do
        let bytes ← inner.read block.offset block.length
        pure (bytes.slice (offset - block.offset) length)

/-- The window of `size` bytes at `offset`, which has to lie in the storage. -/
def window? (storage : Storage) (offset size : Nat) : Except Error Storage :=
  if offset + size ≤ storage.size then .ok (.window storage offset size)
  else .error (.outOfRange offset size storage.size)

/-- The window from `offset` to the end of the storage. -/
def tail? (storage : Storage) (offset : Nat) : Except Error Storage :=
  if offset ≤ storage.size then storage.window? offset (storage.size - offset)
  else .error (.outOfRange offset 0 storage.size)

/-- The storage read in blocks, whose size has to be a power of two. -/
def paged? (storage : Storage) (alignment : Nat) : Option Storage :=
  if Alignment.isPowerOfTwo alignment then some (.paged storage alignment) else none

def windowOffset? : Storage → Option Nat
  | .window _ offset _ => some offset
  | _ => none

/-- The path of the open file at the bottom, if there is one. -/
def path? : Storage → Option String
  | .memory _ => none
  | .file path _ _ => some path
  | .window inner _ _ => inner.path?
  | .paged inner _ => inner.path?

/-- The storage when the open file at its bottom holds these bytes. -/
def withContents (contents : Bytes) : Storage → Storage
  | .memory bytes => .memory bytes
  | .file path size _ => .file path size contents
  | .window inner offset size => .window (inner.withContents contents) offset size
  | .paged inner alignment => .paged (inner.withContents contents) alignment

@[simp] theorem size_withContents (contents : Bytes) (storage : Storage) :
    (storage.withContents contents).size = storage.size := by
  induction storage with
  | memory bytes => rfl
  | file path size old => rfl
  | window inner offset size ih => rfl
  | paged inner alignment ih => exact ih

def describe (storage : Storage) : String :=
  "Storage(" ++ Hex.marked storage.size ++ " bytes)"

end Storage

end Gamecard
