import Gamecard.Proofs.Bytes
import Gamecard.Storage.Reader

/-!
# The bytes that a storage shows

A storage shows a byte string when its size is the length of the string, every
read within it gives the bytes there, and every other read fails at its end.
Memory shows its bytes, a window shows a range of what the storage below shows,
and a page adapter shows what the storage below shows.
-/

namespace Gamecard.Storage

/-- The storage is read as this byte string. -/
structure Shows (storage : Storage) (bytes : Bytes) : Prop where
  size_eq : storage.size = bytes.length
  read_within : ∀ offset length, offset + length ≤ bytes.length →
    (storage.read offset length).result = .ok (bytes.slice offset length)
  read_beyond : ∀ offset length, bytes.length < offset + length →
    (storage.read offset length).result = .error (.pastEnd length offset bytes.length)

theorem shows_memory (bytes : Bytes) : (memory bytes).Shows bytes where
  size_eq := rfl
  read_within offset length within := by
    simp only [read, if_pos within]
  read_beyond offset length beyond := by
    simp only [read, if_neg (Nat.not_le.mpr beyond)]

/-- The covering blocks contain the range and stay within the storage. -/
theorem cover_contains (alignment : Nat) {size offset length : Nat}
    (within : offset + length ≤ size) :
    (cover alignment size offset length).offset ≤ offset ∧
      offset + length ≤
        (cover alignment size offset length).offset +
          (cover alignment size offset length).length ∧
      (cover alignment size offset length).offset +
          (cover alignment size offset length).length ≤ size := by
  have first := Alignment.down_le offset alignment
  have last := Alignment.le_up (offset + length) alignment
  simp only [cover]
  omega

/-- A read that succeeds gives as many bytes as were asked for. -/
theorem length_of_result_read {storage : Storage} {offset length : Nat} {bytes : Bytes}
    (given : (storage.read offset length).result = .ok bytes) : bytes.length = length := by
  induction storage generalizing offset length bytes with
  | memory stored =>
      simp only [read] at given
      split at given
      · cases given
        exact Bytes.length_slice_of_le ‹_›
      · cases given
  | file path size contents =>
      simp only [read] at given
      split at given
      · split at given
        · cases given
          rcases ‹_ ∨ _› with empty | within
          · rw [empty, Bytes.slice_length_zero, List.length_nil]
          · exact Bytes.length_slice_of_le within
        · cases given
      · cases given
  | window inner start size ih =>
      simp only [read] at given
      split at given
      · exact ih given
      · cases given
  | paged inner alignment ih =>
      rw [read] at given
      split at given
      · cases given
      · split at given
        · cases given
          exact Eq.symm ‹length = 0›
        · simp only at given
          split at given
          · exact ih given
          · obtain ⟨block, blockRead, cut⟩ := Access.exists_of_result_bind given
            obtain ⟨before, after, -⟩ := cover_contains alignment (Nat.not_lt.mp ‹_›)
            have whole := ih blockRead
            cases cut
            apply Bytes.length_slice_of_le
            omega

namespace Shows

variable {storage : Storage} {bytes : Bytes}

theorem window (shows : storage.Shows bytes) {start size : Nat}
    (fits : start + size ≤ bytes.length) :
    (Storage.window storage start size).Shows (bytes.slice start size) where
  size_eq := (Bytes.length_slice_of_le fits).symm
  read_within offset length within := by
    rw [Bytes.length_slice_of_le fits] at within
    rw [read, if_pos within, shows.read_within _ _ (by omega), Bytes.slice_slice bytes within]
  read_beyond offset length beyond := by
    rw [Bytes.length_slice_of_le fits] at beyond ⊢
    rw [read, if_neg (Nat.not_le.mpr beyond), Access.result_fail]

theorem paged (shows : storage.Shows bytes) (alignment : Nat) :
    (Storage.paged storage alignment).Shows bytes where
  size_eq := shows.size_eq
  read_within offset length within := by
    have inside : ¬storage.size < offset + length := by
      rw [shows.size_eq]
      exact Nat.not_lt.mpr within
    rw [read, if_neg inside]
    by_cases empty : length = 0
    · rw [if_pos empty, empty, Bytes.slice_length_zero, Access.result_pure]
    · rw [if_neg empty, shows.size_eq]
      obtain ⟨before, after, bounded⟩ := cover_contains alignment within
      by_cases whole : cover alignment bytes.length offset length = ⟨offset, length⟩
      · rw [if_pos whole, shows.read_within offset length within]
      · rw [if_neg whole, Access.result_bind, shows.read_within _ _ bounded]
        simp only [Except.bind, Access.result_pure]
        rw [Bytes.slice_slice bytes (by omega), Nat.add_sub_cancel' before]
  read_beyond offset length beyond := by
    rw [read, shows.size_eq, if_pos beyond, Access.result_fail]

/-- What comes after a read within the storage works on the bytes there. -/
theorem result_read_bind (shows : storage.Shows bytes) {ε α : Type} {offset length : Nat}
    (within : offset + length ≤ bytes.length) (change : IoError → ε)
    (next : Bytes → Access ε α) :
    ((storage.read offset length).mapError change >>= next).result =
      (next (bytes.slice offset length)).result := by
  apply Access.result_bind_of_eq_ok
  apply Access.result_mapError_of_eq_ok
  exact shows.read_within offset length within

/-- Nothing comes after a read that would leave the storage. -/
theorem result_read_bind_beyond (shows : storage.Shows bytes) {ε α : Type}
    {offset length : Nat} (beyond : bytes.length < offset + length) (change : IoError → ε)
    (next : Bytes → Access ε α) :
    ((storage.read offset length).mapError change >>= next).result =
      .error (change (.pastEnd length offset bytes.length)) := by
  rw [Access.result_bind, Access.result_mapError, shows.read_beyond offset length beyond]
  rfl

end Shows

/-- The storage is read as the `size` bytes of a byte string from `start` on, and
the byte string has them all. -/
structure ShowsRange (storage : Storage) (bytes : Bytes) (start size : Nat) : Prop where
  inside : start + size ≤ bytes.length
  shows : storage.Shows (bytes.slice start size)

theorem Shows.whole {storage : Storage} {bytes : Bytes} (shows : storage.Shows bytes) :
    storage.ShowsRange bytes 0 bytes.length where
  inside := Nat.le_of_eq (Nat.zero_add _)
  shows := by
    rw [Bytes.slice_zero_length]
    exact shows

namespace ShowsRange

variable {storage : Storage} {bytes : Bytes} {start size : Nat}

theorem length_slice (range : storage.ShowsRange bytes start size) :
    (bytes.slice start size).length = size :=
  Bytes.length_slice_of_le range.inside

theorem size_eq (range : storage.ShowsRange bytes start size) : storage.size = size :=
  range.shows.size_eq.trans range.length_slice

theorem read_within (range : storage.ShowsRange bytes start size) {offset length : Nat}
    (within : offset + length ≤ size) :
    (storage.read offset length).result = .ok (bytes.slice (start + offset) length) := by
  rw [range.shows.read_within offset length (range.length_slice.symm ▸ within),
    Bytes.slice_slice bytes within]

theorem read_beyond (range : storage.ShowsRange bytes start size) {offset length : Nat}
    (beyond : size < offset + length) :
    (storage.read offset length).result = .error (.pastEnd length offset size) := by
  rw [range.shows.read_beyond offset length (range.length_slice.symm ▸ beyond),
    range.length_slice]

theorem paged (range : storage.ShowsRange bytes start size) (alignment : Nat) :
    (Storage.paged storage alignment).ShowsRange bytes start size :=
  ⟨range.inside, range.shows.paged alignment⟩

/-- The offset of a window adds to where the storage below it starts. -/
theorem window (range : storage.ShowsRange bytes start size) {offset length : Nat}
    (fits : offset + length ≤ size) :
    (Storage.window storage offset length).ShowsRange bytes (start + offset) length where
  inside := by
    have whole := range.inside
    omega
  shows := by
    have inner := range.shows.window (range.length_slice.symm ▸ fits)
    rwa [Bytes.slice_slice bytes fits] at inner

end ShowsRange

end Gamecard.Storage
