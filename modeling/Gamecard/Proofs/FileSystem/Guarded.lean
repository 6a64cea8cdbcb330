import Gamecard.FileSystem.Guarded
import Gamecard.Proofs.FileSystem.Entries
import Gamecard.Proofs.Storage.Guarded

/-!
# Mounting gets past every guard

The counts in the header of a table have half the width of a word, so that the sums and
the products of them are words.  A table that is read has the length that they call for,
and each of its records has sixty-four bytes.  The sum that places a file is not guarded
but compared, and an entry that passes the comparison can be opened.
-/

namespace Gamecard.FileSystem

open Guarded (roomLimit wordLimit)

variable {ε : Type}

theorem numberBetween_eq {bytes : Bytes} {start stop : Nat} (ordered : start ≤ stop)
    (within : stop ≤ bytes.length) :
    (numberBetween bytes start stop : Guarded ε Nat) =
      pure (bytes.numberAt start (stop - start)) := by
  rw [numberBetween, Guarded.cut_eq ordered within, Guarded.pure_bind,
    Guarded.number_slice (by omega) (Nat.le_refl _)]

theorem readNameGuarded_eq (names : Bytes) (offset : Nat) :
    readNameGuarded names offset = .ofExcept (readName names offset) := by
  unfold readNameGuarded readName
  split
  · rfl
  · simp only
    split
    · rfl
    · have start := List.takeWhile_prefix (l := names.drop offset) (· != 0)
      rw [Guarded.cut_eq (Nat.zero_le _) start.length_le, Guarded.pure_bind, Nat.sub_zero,
        Bytes.slice_zero, ← List.prefix_iff_eq_take.mp start]
      cases Utf8.decode? ((names.drop offset).takeWhile (· != 0)) <;> rfl

theorem readEntryGuarded_eq (names : Bytes) (dataOffset storageSize : Nat) {record : Bytes}
    (whole : record.length = entrySize) :
    readEntryGuarded names dataOffset storageSize record =
      .ofExcept (readEntry names dataOffset storageSize record) := by
  have long : record.length = 0x40 := whole
  have digest : 0x20 + 0x20 ≤ record.length := by omega
  unfold readEntryGuarded readEntry
  rw [numberBetween_eq (by decide) (by omega), Guarded.pure_bind,
    numberBetween_eq (by decide) (by omega), Guarded.pure_bind,
    numberBetween_eq (by decide) (by omega), Guarded.pure_bind,
    numberBetween_eq (by decide) (by omega), Guarded.pure_bind,
    Guarded.cut_eq (by decide) (by omega), Guarded.pure_bind,
    Guarded.copied_eq (Bytes.length_slice_of_le digest), Guarded.pure_bind, readNameGuarded_eq]
  apply Guarded.ofExcept_bind
  intro name
  split <;> rfl

theorem readEntriesGuarded_eq (names : Bytes) (dataOffset storageSize : Nat)
    {records : List Bytes} (whole : ∀ record ∈ records, record.length = entrySize) :
    readEntriesGuarded names dataOffset storageSize records =
      .ofExcept (readEntries names dataOffset storageSize records) := by
  induction records with
  | nil => rfl
  | cons record rest induction =>
      rw [List.forall_mem_cons] at whole
      rw [readEntriesGuarded, readEntries, readEntryGuarded_eq names _ _ whole.1]
      apply Guarded.ofExcept_bind
      intro entry
      rw [induction whole.2]
      apply Guarded.ofExcept_bind
      intro entries
      rfl

/-- The records between the header and the names are those that the count calls for. -/
theorem pieces_between (fileCount : Nat) {table : Bytes}
    (long : headerSize + fileCount * entrySize ≤ table.length) :
    Bytes.pieces entrySize ((table.slice headerSize (fileCount * entrySize)).length / entrySize)
        (table.slice headerSize (fileCount * entrySize)) =
      Bytes.pieces entrySize fileCount (table.drop headerSize) := by
  rw [Bytes.length_slice_of_le long, Nat.mul_div_cancel fileCount (by decide), Bytes.slice,
    Bytes.pieces_take]

theorem length_of_mem_records {fileCount : Nat} {table record : Bytes}
    (long : headerSize + fileCount * entrySize ≤ table.length)
    (member : record ∈ Bytes.pieces entrySize fileCount (table.drop headerSize)) :
    record.length = entrySize := by
  apply Bytes.length_of_mem_pieces _ member
  rw [List.length_drop]
  omega

section Counts

-- The numbers in the header of a table have thirty-two bits.
variable {fileCount namesSize : Nat}

theorem room_entries (few : fileCount < 256 ^ 4) : fileCount * entryRoom ≤ roomLimit := by
  simp only [entryRoom, roomLimit]
  omega

theorem tableSize_lt_wordLimit (few : fileCount < 256 ^ 4) (short : namesSize < 256 ^ 4) :
    headerSize + fileCount * entrySize + namesSize < wordLimit := by
  simp only [headerSize, entrySize, wordLimit]
  omega

theorem tableEntriesGuarded_eq (few : fileCount < 256 ^ 4) {table : Bytes}
    (long : headerSize + fileCount * entrySize ≤ table.length) (dataOffset storageSize : Nat) :
    tableEntriesGuarded table fileCount (headerSize + fileCount * entrySize) dataOffset
        storageSize =
      .ofExcept (readEntries (table.drop (headerSize + fileCount * entrySize)) dataOffset
        storageSize (Bytes.pieces entrySize fileCount (table.drop headerSize))) := by
  have fits := room_entries few
  rw [tableEntriesGuarded, Guarded.cut_eq long (Nat.le_refl _), Guarded.pure_bind,
    Guarded.mul_eq (Guarded.lt_wordLimit fits), Guarded.pure_bind, Guarded.room_eq fits,
    Guarded.pure_bind, Guarded.cut_eq (Nat.le_add_right _ _) long, Guarded.pure_bind,
    Bytes.slice_rest, Nat.add_sub_cancel_left, pieces_between fileCount long]
  exact readEntriesGuarded_eq _ _ _ fun _ member => length_of_mem_records long member

end Counts

theorem mountGuarded_eq {storage : Storage} (inWords : storage.InWords)
    (expected : Option Digest) (salt : Option UInt8) :
    mountGuarded storage expected salt = .done (mount storage expected salt) := by
  unfold mountGuarded mount
  simp only
  split
  · rfl
  · apply Storage.readGuarded_bind inWords
    intro header headerLength
    have long : header.length = 0x10 := headerLength
    rw [Guarded.cut_eq (by decide) (by omega), Guarded.pure_bind, Nat.sub_zero,
      Bytes.slice_zero]
    split
    · rfl
    · have fileCount : (numberBetween header 4 8 : Guarded Error Nat) =
          pure (header.numberAt 4 4) :=
        numberBetween_eq (by decide) (by omega)
      have namesSize : (numberBetween header 8 12 : Guarded Error Nat) =
          pure (header.numberAt 8 4) :=
        numberBetween_eq (by decide) (by omega)
      have few := header.numberAt_lt 4 4
      have tableFits := tableSize_lt_wordLimit few (header.numberAt_lt 8 4)
      rw [fileCount, Guarded.pure_bind, namesSize, Guarded.pure_bind,
        Guarded.mul_eq (by omega), Guarded.pure_bind, Guarded.add_eq (by omega),
        Guarded.pure_bind, Guarded.add_eq tableFits, Guarded.pure_bind]
      split
      · rfl
      next inside =>
        have room := Nat.le_trans (Nat.not_lt.mp inside) inWords.size_le
        rw [Guarded.room_eq room, Guarded.pure_bind]
        apply Storage.readGuarded_bind inWords
        intro table tableLength
        split
        · rfl
        · rw [tableEntriesGuarded_eq few (by omega)]
          exact Guarded.done_bind fun _ _ => rfl

theorem openEntryGuarded_eq {fileSystem : FileSystem} (inWords : fileSystem.storage.InWords)
    (contained : fileSystem.Contained) {entry : Entry} (member : entry ∈ fileSystem.entries) :
    fileSystem.openEntryGuarded entry = .ofExcept (fileSystem.openEntry entry) := by
  have within := contained entry member
  have fits := Nat.le_trans (Nat.le_of_add_right_le within) inWords.size_le
  rw [openEntryGuarded, Guarded.add_eq (Guarded.lt_wordLimit fits), Guarded.pure_bind, openEntry]

/-- What an entry of a mounted file system holds is read without stopping. -/
theorem inWords_entryStorage {fileSystem : FileSystem}
    (inWords : fileSystem.storage.InWords) (contained : fileSystem.Contained) {entry : Entry}
    (member : entry ∈ fileSystem.entries) : (fileSystem.entryStorage entry).InWords :=
  ⟨inWords, contained entry member⟩

end Gamecard.FileSystem
