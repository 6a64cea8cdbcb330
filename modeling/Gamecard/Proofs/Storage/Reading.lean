import Gamecard.Proofs.Storage.Shows

/-!
# Reading all that a storage shows

A reader hands out what the storage shows from its position on.  Whatever the
lengths of the reads are, as long as none is zero, they give everything up to
the end, and the end is reached after no more reads than there are bytes left
and one.
-/

namespace Gamecard.Storage.Shows

variable {storage : Storage} {bytes : Bytes}

theorem next (shows : storage.Shows bytes) {position : Nat}
    (inside : position ≤ bytes.length) (length : Nat) :
    ((Reader.mk storage position).next length).result =
        .ok (bytes.slice position (min length (bytes.length - position))) ∧
      ((Reader.mk storage position).next length).reader =
        ⟨storage, position + min length (bytes.length - position)⟩ := by
  have counted : (Reader.mk storage position).available length =
      min length (bytes.length - position) := by
    rw [Reader.available, shows.size_eq]
  have within : position + min length (bytes.length - position) ≤ bytes.length := by omega
  have given := shows.read_within _ _ within
  rw [← counted] at given ⊢
  rw [Reader.next_of_eq_ok given]
  exact ⟨rfl, rfl⟩

theorem collect (shows : storage.Shows bytes) {lengths : Nat → Nat}
    (positive : ∀ index, 0 < lengths index) (index calls position : Nat)
    (inside : position ≤ bytes.length) (enough : bytes.length < position + calls) :
    (Reader.collect lengths index calls ⟨storage, position⟩).bytes = bytes.drop position ∧
      (Reader.collect lengths index calls ⟨storage, position⟩).failure = none := by
  induction calls generalizing index position with
  | zero => exact absurd enough (Nat.not_lt.mpr inside)
  | succ calls induction =>
      have wanted := positive index
      obtain ⟨read, moved⟩ := shows.next inside (lengths index)
      simp only [Reader.collect, read, moved]
      by_cases atEnd : position = bytes.length
      · simp [atEnd]
      · let count := min (lengths index) (bytes.length - position)
        have counted : count = min (lengths index) (bytes.length - position) := rfl
        have given : (bytes.slice position count).length = count :=
          Bytes.length_slice_of_le (by omega)
        -- Short of the end, a read that wants something gets something.
        have some_given : (bytes.slice position count).isEmpty = false := by
          rw [List.isEmpty_eq_false_iff, ← List.length_pos_iff, given]
          omega
        obtain ⟨laterBytes, laterFailure⟩ :=
          induction (index + 1) (position + count) (by omega) (by omega)
        simp only [← counted, some_given, Bool.false_eq_true, if_false, laterBytes,
          laterFailure, and_true]
        rw [Bytes.slice, ← List.drop_drop, List.take_append_drop]

/-- Reading a storage to its end gives exactly what it shows. -/
theorem contents (shows : storage.Shows bytes) : storage.contents.result = .ok bytes := by
  have enough : bytes.length < 0 + (storage.size + 1) := by
    rw [shows.size_eq]
    omega
  have positive : ∀ _ : Nat, 0 < copyLength := fun _ => by decide
  obtain ⟨all, whole⟩ := shows.collect positive 0 _ 0 (Nat.zero_le _) enough
  simp only [Storage.contents, Reader.Collected.access, collected, Reader.start, all, whole,
    List.drop_zero]

end Gamecard.Storage.Shows
