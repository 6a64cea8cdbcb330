import Gamecard.Proofs.FileSystem.Entries
import Gamecard.Proofs.FileSystem.RoundTrip
import Gamecard.Proofs.FileSystem.TableDigest

/-!
# Verifying files

An entry has the digest of the start of its file.  Verifying it reads that start and
compares: what mounting has checked leaves no other reason to fail than another digest,
as long as the storage gives the bytes that it has.  Nothing else of the storage has a
part in it, so storages with the same table and the same start of the file verify alike.
-/

namespace Gamecard

/-- How many bytes at the start of the file the digest covers. -/
def Entry.covered (entry : Entry) : Nat :=
  min entry.hashedSize entry.size

theorem Entry.covered_le_size (entry : Entry) : entry.covered ≤ entry.size :=
  Nat.min_le_right _ _

/-- What comes of comparing the digest with that of the covered bytes. -/
def Entry.check (entry : Entry) (start : Bytes) : Except Error Unit :=
  if Sha256.digest start = entry.hash then .ok ()
  else .error (.hashMismatch entry.hash (Sha256.digest start))

namespace FileSystem

variable {fileSystem : FileSystem} {storage other : Storage} {entry : Entry}

/-- Where the data of a file start in the storage of the file system. -/
def place (fileSystem : FileSystem) (entry : Entry) : Nat :=
  fileSystem.dataOffset + entry.offset

/-- Verifying compares the digest of the entry with that of these bytes, and fails for
no other reason. -/
structure VerifiedBy (fileSystem : FileSystem) (entry : Entry) (start : Bytes) : Prop where
  ok_iff : (fileSystem.verify entry).result = .ok () ↔ Sha256.digest start = entry.hash
  error_iff : ∀ error, (fileSystem.verify entry).result = .error error ↔
    Sha256.digest start ≠ entry.hash ∧
      error = .hashMismatch entry.hash (Sha256.digest start)

theorem verifiedBy_of_check {start : Bytes}
    (checked : (fileSystem.verify entry).result = entry.check start) :
    fileSystem.VerifiedBy entry start := by
  by_cases same : Sha256.digest start = entry.hash
  · have accepted : (fileSystem.verify entry).result = .ok () := by
      simpa [Entry.check, same] using checked
    constructor
    · simp [accepted, same]
    · simp [accepted, same]
  · have refused : (fileSystem.verify entry).result =
        .error (.hashMismatch entry.hash (Sha256.digest start)) := by
      simpa [Entry.check, same] using checked
    constructor
    · simp [refused, same]
    · simp [refused, same, eq_comm]

/-- The covered bytes of a file are a range of the storage of the file system. -/
theorem read_entryStorage (fileSystem : FileSystem) (entry : Entry) :
    (fileSystem.entryStorage entry).read 0 entry.covered =
      fileSystem.storage.read (fileSystem.place entry) entry.covered := by
  have within : 0 + entry.covered ≤ entry.size := by
    simpa using entry.covered_le_size
  simp only [entryStorage, Storage.read, if_pos within, Nat.add_zero, place]

/-- Verifying an entry within the storage is one read and the comparison. -/
theorem Contained.result_verify_eq (contained : fileSystem.Contained)
    (member : entry ∈ fileSystem.entries) :
    (fileSystem.verify entry).result =
      ((fileSystem.storage.read (fileSystem.place entry) entry.covered).result.mapError
        Error.storage).bind entry.check := by
  have opened := contained.openEntry_eq member
  rw [verify, Access.result_bind_of_eq_ok opened, Access.result_bind]
  have same := congrArg Access.result (read_entryStorage fileSystem entry)
  simp only [Entry.covered] at same
  simp only [Access.result_mapError, same, Entry.covered]
  congr 1
  funext start
  exact apply_ite Access.result _ _ _

theorem Contained.verifiedBy (contained : fileSystem.Contained)
    (member : entry ∈ fileSystem.entries) {start : Bytes}
    (given : (fileSystem.storage.read (fileSystem.place entry) entry.covered).result =
      .ok start) : fileSystem.VerifiedBy entry start := by
  apply verifiedBy_of_check
  rw [contained.result_verify_eq member, given]
  rfl

/-- The entries of what is mounted are those of the table at the start of the storage. -/
theorem StartsWith.of_mount {header table : Bytes} {expected : Option Digest}
    {salt : Option UInt8} (starts : StartsWith storage header table)
    (mounted : (mount storage expected salt).result = .ok fileSystem) :
    fileSystem.dataOffset = tableSize header ∧
      entriesOf storage.size header table = .ok fileSystem.entries := by
  rw [starts.result_mount] at mounted
  split at mounted
  · cases mounted
  · cases read : entriesOf storage.size header table with
    | error error =>
        simp only [read] at mounted
        cases mounted
    | ok entries =>
        simp only [read] at mounted
        cases mounted
        exact ⟨rfl, rfl⟩

/-- Storages of one size with the same table are mounted with the same entries, whatever
digests were expected of them. -/
theorem mounted_alike_of_sameBelow {expected otherExpected : Option Digest}
    {salt otherSalt : Option UInt8} {changed : FileSystem}
    (mounted : (mount storage expected salt).result = .ok fileSystem)
    (mountedOther : (mount other otherExpected otherSalt).result = .ok changed)
    (sameSize : other.size = storage.size)
    (same : Storage.SameBelow fileSystem.dataOffset storage other) :
    changed.dataOffset = fileSystem.dataOffset ∧ changed.entries = fileSystem.entries := by
  obtain ⟨header, table, starts, size, -⟩ := exists_startsWith mounted
  rw [size] at same
  obtain ⟨offset, entries⟩ := starts.of_mount mounted
  obtain ⟨otherOffset, otherEntries⟩ := (starts.of_sameBelow same).of_mount mountedOther
  rw [sameSize, entries] at otherEntries
  exact ⟨otherOffset.trans offset.symm, (Except.ok.inj otherEntries).symm⟩

/-- The covered bytes are the start of what is read of the file. -/
theorem Contained.read_covered (contained : fileSystem.Contained)
    (member : entry ∈ fileSystem.entries) {bytes : Bytes}
    (shows : fileSystem.storage.Shows bytes) :
    (fileSystem.storage.read (fileSystem.place entry) entry.covered).result =
      .ok ((bytes.slice (fileSystem.place entry) entry.size).take entry.covered) := by
  have shown := contained.shows_entry member shows
  have fits := contained entry member
  have long : (bytes.slice (fileSystem.place entry) entry.size).length = entry.size := by
    apply Bytes.length_slice_of_le
    simpa [place, ← shows.size_eq] using fits
  have within : 0 + entry.covered ≤
      (bytes.slice (fileSystem.place entry) entry.size).length := by
    simpa [long] using entry.covered_le_size
  rw [← read_entryStorage]
  exact shown.read_within 0 entry.covered within

/-- Verifying an entry of a mounted file system succeeds exactly if the digest of the
covered start of its file is that of the entry, and otherwise it fails for that reason.
Storages of one size that agree on the table and on the start of the file verify the
entry alike, whatever else they hold. -/
theorem verify_exact {expected : Option Digest} {salt : Option UInt8}
    (mounted : (mount storage expected salt).result = .ok fileSystem) :
    (∀ bytes, storage.Shows bytes → ∀ entry ∈ fileSystem.entries, ∃ file contents,
      fileSystem.openEntry entry = .ok file ∧ file.contents.result = .ok contents ∧
        contents = bytes.slice (fileSystem.dataOffset + entry.offset) entry.size ∧
        fileSystem.VerifiedBy entry (contents.take (min entry.hashedSize entry.size))) ∧
    (∀ entry ∈ fileSystem.entries,
      fileSystem.dataOffset + entry.offset + min entry.hashedSize entry.size ≤ storage.size ∧
        ∀ start, (storage.read (fileSystem.dataOffset + entry.offset)
          (min entry.hashedSize entry.size)).result = .ok start →
          fileSystem.VerifiedBy entry start) ∧
    ∀ other otherExpected otherSalt changed,
      (mount other otherExpected otherSalt).result = .ok changed →
      other.size = storage.size →
      Storage.SameBelow fileSystem.dataOffset storage other →
        changed.entries = fileSystem.entries ∧
        ∀ entry ∈ fileSystem.entries,
          (storage.read (fileSystem.dataOffset + entry.offset)
              (min entry.hashedSize entry.size)).result =
            (other.read (fileSystem.dataOffset + entry.offset)
              (min entry.hashedSize entry.size)).result →
          (changed.verify entry).result = (fileSystem.verify entry).result := by
  obtain ⟨rfl, contained⟩ := contained_of_mount mounted
  refine ⟨?image, ?anyStorage, ?twoStorages⟩
  case image =>
    intro bytes shows entry member
    have shown := contained.shows_entry member shows
    exact ⟨_, _, contained.openEntry_eq member, shown.contents, rfl,
      contained.verifiedBy member (contained.read_covered member shows)⟩
  case anyStorage =>
    intro entry member
    refine ⟨?_, fun start given => contained.verifiedBy member given⟩
    exact Nat.le_trans (Nat.add_le_add_left entry.covered_le_size _) (contained entry member)
  case twoStorages =>
    intro other otherExpected otherSalt changed mountedOther sameSize same
    obtain ⟨offsets, entries⟩ :=
      mounted_alike_of_sameBelow mounted mountedOther sameSize same
    obtain ⟨rfl, changedContained⟩ := contained_of_mount mountedOther
    refine ⟨entries, ?_⟩
    intro entry member sameStart
    have changedMember : entry ∈ changed.entries := entries ▸ member
    have samePlace : changed.place entry = fileSystem.place entry := by
      simp only [place, offsets]
    rw [contained.result_verify_eq member, changedContained.result_verify_eq changedMember,
      samePlace]
    exact congrArg (fun result => (result.mapError Error.storage).bind entry.check)
      sameStart.symm

/-- The second file of an image is changed after its digest was taken: the first file
is verified as before. -/
theorem verify_exact_otherFile :
    ∃ fileSystem changed,
      (mount (.memory (Image.build [("a", [1, 2]), ("b", [3])]).data) none none).result =
          .ok fileSystem ∧
        (mount (.memory (Image.table [("a", [1, 2]), ("b", [3])] ++ [1, 2, 4])) none
          (some 7)).result = .ok changed ∧
        (changed.verify (Image.entry 0 ("a", [1, 2]))).result = .ok () := by
  let files : List Image.File := [("a", [1, 2]), ("b", [3])]
  let table := Image.table files
  have shows := Storage.shows_memory (table ++ [1, 2, 3])
  have showsOther := Storage.shows_memory (table ++ [1, 2, 4])
  have mounted (salt : Option UInt8) : (mount (.memory (table ++ [1, 2, 3])) none salt).result =
      .ok ⟨.memory (table ++ [1, 2, 3]), Image.entries 0 files, table.length,
        (Image.build files).headerHash salt⟩ :=
    Image.result_mount_built (by decide) (by decide) (by decide) (by decide) shows salt
  have below : Storage.SameBelow table.length (.memory (table ++ [1, 2, 3]))
      (.memory (table ++ [1, 2, 4])) := by
    apply shows.sameBelow showsOther <;> simp
  obtain ⟨header, _, starts, size, -⟩ := exists_startsWith (mounted (some 7))
  have belowTable : Storage.SameBelow (tableSize header) (.memory (table ++ [1, 2, 3]))
      (.memory (table ++ [1, 2, 4])) := size ▸ below
  have mountedOther := starts.result_mount_changed belowTable (by simp [Storage.size]) none (some 7)
  rw [mounted (some 7)] at mountedOther
  have read (last : UInt8) :
      ((Storage.memory (table ++ [1, 2, last])).read (table.length + 0) 2).result =
        .ok [1, 2] := by
    rw [(Storage.shows_memory _).read_within _ 2 (by simp),
      Bytes.slice_append_right (Nat.le_add_right _ _), Nat.add_sub_cancel_left]
    rfl
  have first : Image.entry 0 ("a", [1, 2]) ∈ Image.entries 0 files := List.mem_cons_self
  obtain ⟨-, anyStorage, twoStorages⟩ := verify_exact (mounted none)
  obtain ⟨-, verified⟩ := anyStorage _ first
  obtain ⟨-, alike⟩ := twoStorages _ _ _ _ mountedOther (by simp [Storage.size]) below
  refine ⟨_, _, mounted none, mountedOther, ?_⟩
  rw [alike _ first ((read 3).trans (read 4).symm)]
  exact (verified [1, 2] (read 3)).ok_iff.mpr rfl

end FileSystem

end Gamecard
