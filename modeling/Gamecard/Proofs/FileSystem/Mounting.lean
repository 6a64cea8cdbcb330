import Gamecard.FileSystem
import Gamecard.Proofs.Storage.Shows

/-!
# Mounting sees only bytes

What the table at the start of a byte string says is a function of the bytes.
Mounting a storage gives what the bytes say that the storage shows.
-/

namespace Gamecard.FileSystem

structure Table where
  entries : List Entry
  dataOffset : Nat
  headerHash : Digest

def Table.mounted (table : Table) (storage : Storage) : FileSystem :=
  { storage, entries := table.entries, dataOffset := table.dataOffset
    headerHash := table.headerHash }

def namesOffset (bytes : Bytes) : Nat :=
  headerSize + bytes.numberAt 4 4 * entrySize

/-- Where the data behind a table start. -/
def tableSize (bytes : Bytes) : Nat :=
  namesOffset bytes + bytes.numberAt 8 4

def readRecords (bytes : Bytes) : Except Error (List Entry) :=
  let table := bytes.take (tableSize bytes)
  readEntries (table.drop (namesOffset bytes)) (tableSize bytes) bytes.length
    (Bytes.pieces entrySize (bytes.numberAt 4 4) (table.drop headerSize))

/-- The table at the start of a byte string. -/
def readTable (bytes : Bytes) (expected : Option Digest) (salt : Option UInt8) :
    Except Error Table :=
  let headerHash := tableHash (bytes.take (tableSize bytes)) salt
  if bytes.length < headerSize then .error (.malformedTable .truncatedHeader)
  else if bytes.take 4 ≠ magic then .error (.malformedTable .wrongMagic)
  else if bytes.length < tableSize bytes then .error (.malformedTable .truncatedTable)
  else if expected.any (· != headerHash) then
    .error (.hashMismatch (expected.getD headerHash) headerHash)
  else (readRecords bytes).map fun entries => ⟨entries, tableSize bytes, headerHash⟩

/-- With the digest of the table itself, a table is read as without any. -/
theorem readTable_own_digest (bytes : Bytes) (salt : Option UInt8) :
    readTable bytes (some (tableHash (bytes.take (tableSize bytes)) salt)) salt =
      readTable bytes none salt := by
  simp only [readTable, Option.any_some, bne_self_eq_false, Option.any_none, Bool.false_eq_true,
    if_false]

/-- A table that was read has the expected digest. -/
theorem tableHash_of_readTable {bytes : Bytes} {expected : Digest} {salt : Option UInt8}
    {table : Table} (read : readTable bytes (some expected) salt = .ok table) :
    tableHash (bytes.take (tableSize bytes)) salt = expected := by
  by_cases same : tableHash (bytes.take (tableSize bytes)) salt = expected
  · exact same
  · have differs : (some expected).any
        (· != tableHash (bytes.take (tableSize bytes)) salt) = true := by
      rw [Option.any_some, bne_iff_ne]
      exact Ne.symm same
    simp only [readTable, differs, if_true] at read
    split at read
    · cases read
    · split at read
      · cases read
      · split at read
        · cases read
        · cases read

theorem readTable_of_expected {bytes : Bytes} {expected : Digest} {salt : Option UInt8}
    {table : Table} (read : readTable bytes (some expected) salt = .ok table) :
    readTable bytes none salt = .ok table := by
  rw [← readTable_own_digest, tableHash_of_readTable read]
  exact read

theorem exists_readTable_expected_iff (bytes : Bytes) (expected : Digest)
    (salt : Option UInt8) :
    (∃ table, readTable bytes (some expected) salt = .ok table) ↔
      (∃ table, readTable bytes none salt = .ok table) ∧
        tableHash (bytes.take (tableSize bytes)) salt = expected := by
  constructor
  · rintro ⟨table, read⟩
    exact ⟨⟨table, readTable_of_expected read⟩, tableHash_of_readTable read⟩
  · rintro ⟨⟨table, read⟩, digest⟩
    rw [← digest, readTable_own_digest]
    exact ⟨table, read⟩

theorem numberAt_header (bytes : Bytes) (offset width : Nat)
    (within : offset + width ≤ headerSize) :
    (bytes.slice 0 headerSize).numberAt offset width = bytes.numberAt offset width := by
  rw [Bytes.numberAt, Bytes.slice_slice bytes within, Nat.zero_add, Bytes.numberAt]

/-- Mounting a storage gives what the bytes say that the storage shows. -/
theorem result_mount {storage : Storage} {bytes : Bytes} (shows : storage.Shows bytes)
    (expected : Option Digest) (salt : Option UInt8) :
    (mount storage expected salt).result =
      (readTable bytes expected salt).map fun table => table.mounted storage := by
  unfold mount readTable
  rw [shows.size_eq]
  by_cases short : bytes.length < headerSize
  · simp only [if_pos short, Access.result_fail]
    rfl
  · have header : 0 + headerSize ≤ bytes.length := by omega
    have start : (bytes.slice 0 headerSize).take 4 = bytes.take 4 := by
      rw [Bytes.slice_zero, List.take_take]
      rfl
    simp only [if_neg short, shows.result_read_bind header, start]
    by_cases otherMagic : bytes.take 4 ≠ magic
    · simp only [if_pos otherMagic, Access.result_fail]
      rfl
    · have names : headerSize + bytes.numberAt 4 4 * entrySize = namesOffset bytes := rfl
      have size : namesOffset bytes + bytes.numberAt 8 4 = tableSize bytes := rfl
      simp only [if_neg otherMagic, numberAt_header bytes 4 4 (by decide),
        numberAt_header bytes 8 4 (by decide), names, size]
      by_cases beyond : bytes.length < tableSize bytes
      · simp only [if_pos beyond, Access.result_fail]
        rfl
      · have table (next : Bytes → Access Error FileSystem) :
            ((storage.read 0 (tableSize bytes)).mapError .storage >>= next).result =
              (next (bytes.take (tableSize bytes))).result :=
          shows.result_read_bind (by omega) .storage next
        simp only [if_neg beyond, table]
        split
        · rw [Access.result_fail]
          rfl
        · rw [Access.result_bind]
          change (readRecords bytes).bind _ = _
          cases readRecords bytes with
          | error error => rfl
          | ok entries => rfl

/-- Mounting a storage is mounting the bytes that it shows. -/
theorem result_mount_memory {storage : Storage} {bytes : Bytes} (shows : storage.Shows bytes)
    (expected : Option Digest) (salt : Option UInt8) :
    (mount storage expected salt).result =
      (mount (.memory bytes) expected salt).result.map fun fileSystem =>
        { fileSystem with storage } := by
  rw [result_mount shows, result_mount (Storage.shows_memory bytes)]
  cases readTable bytes expected salt <;> rfl

/-- Verifying compares the digest of the covered start of the file. -/
theorem result_verify {fileSystem : FileSystem} {entry : Entry} {data : Storage}
    {bytes : Bytes} (opened : fileSystem.openEntry entry = .ok data)
    (shows : data.Shows bytes) (within : min entry.hashedSize entry.size ≤ bytes.length) :
    (fileSystem.verify entry).result =
      let actual := Sha256.digest (bytes.take (min entry.hashedSize entry.size))
      if actual = entry.hash then .ok () else .error (.hashMismatch entry.hash actual) := by
  have covered : 0 + min entry.hashedSize entry.size ≤ bytes.length := by omega
  unfold verify
  rw [Access.result_bind_of_eq_ok opened, shows.result_read_bind covered, Bytes.slice_zero]
  exact apply_ite Access.result _ _ _

end Gamecard.FileSystem
