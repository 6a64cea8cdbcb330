import Gamecard.Proofs.FileSystem.Mounting
import Gamecard.Proofs.Storage.Tower
import Gamecard.Proofs.Text.Utf8

/-!
# Entries within their storage

Mounting accepts an entry only if its name can be read and the data of its file
lie within the storage.  Every file of a mounted file system therefore opens, and
the place of its data is never beyond the end of the storage.
-/

namespace Gamecard.FileSystem

theorem exists_of_bind_eq_ok {ε α β : Type} {first : Except ε α} {next : α → Except ε β}
    {result : β} (done : first >>= next = .ok result) :
    ∃ value, first = .ok value ∧ next value = .ok result := by
  cases first with
  | error error => cases done
  | ok value => exact ⟨value, rfl, done⟩

/-- The data of an entry that was read lie within the storage. -/
theorem readEntry_inside {names record : Bytes} {dataOffset storageSize : Nat} {entry : Entry}
    (read : readEntry names dataOffset storageSize record = .ok entry) :
    dataOffset + entry.offset + entry.size ≤ storageSize := by
  obtain ⟨name, _, placed⟩ := exists_of_bind_eq_ok read
  split at placed
  next inside =>
    cases placed
    exact inside
  next => cases placed

/-- A name ends before the first zero byte. -/
theorem readName_noZero {names : Bytes} {offset : Nat} {name : String}
    (read : readName names offset = .ok name) : '\x00' ∉ name.toList := by
  unfold readName at read
  split at read
  · cases read
  · simp only at read
    split at read
    · cases read
    · split at read
      next => cases read
      next text decoded =>
        cases read
        rw [← Utf8.zero_mem_encode_iff, ← Utf8.decode?_eq_some_iff.mp decoded]
        intro zero
        exact absurd (List.all_eq_true.mp List.all_takeWhile 0 zero) (by decide)

theorem readEntry_noZero {names record : Bytes} {dataOffset storageSize : Nat} {entry : Entry}
    (read : readEntry names dataOffset storageSize record = .ok entry) :
    '\x00' ∉ entry.name.toList := by
  obtain ⟨name, named, placed⟩ := exists_of_bind_eq_ok read
  split at placed
  next =>
    cases placed
    exact readName_noZero named
  next => cases placed

theorem exists_readEntry_of_mem {names : Bytes} {dataOffset storageSize : Nat}
    {records : List Bytes} {entries : List Entry}
    (read : readEntries names dataOffset storageSize records = .ok entries) :
    ∀ entry ∈ entries, ∃ record, readEntry names dataOffset storageSize record = .ok entry := by
  induction records generalizing entries with
  | nil =>
      cases read
      exact List.forall_mem_nil _
  | cons record rest induction =>
      obtain ⟨entry, first, others⟩ := exists_of_bind_eq_ok read
      obtain ⟨later, following, listed⟩ := exists_of_bind_eq_ok others
      cases listed
      exact List.forall_mem_cons.mpr ⟨⟨record, first⟩, induction following⟩

/-- What is mounted has the storage that it is mounted from, and each of its entries
was read from a record. -/
theorem exists_readEntry_of_mount {storage : Storage} {expected : Option Digest}
    {salt : Option UInt8} {fileSystem : FileSystem}
    (mounted : (mount storage expected salt).result = .ok fileSystem) :
    fileSystem.storage = storage ∧ ∀ entry ∈ fileSystem.entries, ∃ names record,
      readEntry names fileSystem.dataOffset storage.size record = .ok entry := by
  simp only [mount] at mounted
  split at mounted
  · cases mounted
  · obtain ⟨header, _, checked⟩ := Access.exists_of_result_bind mounted
    split at checked
    · cases checked
    · split at checked
      · cases checked
      · obtain ⟨table, _, verified⟩ := Access.exists_of_result_bind checked
        split at verified
        · cases verified
        · obtain ⟨entries, read, same⟩ := Access.exists_of_result_bind verified
          cases same
          exact ⟨rfl, fun entry member => ⟨_, exists_readEntry_of_mem read entry member⟩⟩

/-- The data of every file lie within the storage. -/
def Contained (fileSystem : FileSystem) : Prop :=
  ∀ entry ∈ fileSystem.entries,
    fileSystem.dataOffset + entry.offset + entry.size ≤ fileSystem.storage.size

/-- What is mounted stays within the storage that it is mounted from. -/
theorem contained_of_mount {storage : Storage} {expected : Option Digest}
    {salt : Option UInt8} {fileSystem : FileSystem}
    (mounted : (mount storage expected salt).result = .ok fileSystem) :
    fileSystem.storage = storage ∧ fileSystem.Contained := by
  obtain ⟨place, fromRecords⟩ := exists_readEntry_of_mount mounted
  refine ⟨place, ?_⟩
  intro entry member
  obtain ⟨names, record, read⟩ := fromRecords entry member
  rw [place]
  exact readEntry_inside read

/-- No name of what is mounted has a zero character. -/
theorem noZero_of_mount {storage : Storage} {expected : Option Digest}
    {salt : Option UInt8} {fileSystem : FileSystem}
    (mounted : (mount storage expected salt).result = .ok fileSystem) :
    ∀ entry ∈ fileSystem.entries, '\x00' ∉ entry.name.toList := by
  intro entry member
  obtain ⟨_, fromRecords⟩ := exists_readEntry_of_mount mounted
  obtain ⟨names, record, read⟩ := fromRecords entry member
  exact readEntry_noZero read

/-- The storage of the file that an entry stands for. -/
def entryStorage (fileSystem : FileSystem) (entry : Entry) : Storage :=
  .window fileSystem.storage (fileSystem.dataOffset + entry.offset) entry.size

theorem Contained.openEntry_eq {fileSystem : FileSystem} (contained : fileSystem.Contained)
    {entry : Entry} (member : entry ∈ fileSystem.entries) :
    fileSystem.openEntry entry = .ok (fileSystem.entryStorage entry) :=
  Storage.window?_eq_ok_iff.mpr ⟨contained entry member, rfl⟩

theorem Contained.shows_entry {fileSystem : FileSystem} (contained : fileSystem.Contained)
    {entry : Entry} (member : entry ∈ fileSystem.entries) {bytes : Bytes}
    (shows : fileSystem.storage.Shows bytes) :
    (fileSystem.entryStorage entry).Shows
      (bytes.slice (fileSystem.dataOffset + entry.offset) entry.size) := by
  apply shows.window
  rw [← shows.size_eq]
  exact contained entry member

end Gamecard.FileSystem
