import Gamecard.FileSystem.Image
import Gamecard.Proofs.FileSystem.Mounting
import Gamecard.Proofs.Storage.Reading
import Gamecard.Proofs.Storage.Tower
import Gamecard.Proofs.Text.Utf8
import Mathlib.Data.List.Forall2

/-!
# Mounting what was built

Laying out files and mounting the image gives the files back.  The layout is
computed twice, by adding up names and contents on one side and by reading
numbers from the table on the other; the induction over the files keeps that
the names and the data still to come stand where the running offsets say.
-/

namespace Gamecard.Image

open FileSystem

/-- The entry of a file that is covered whole by its digest. -/
def entry (dataOffset : Nat) (file : File) : Entry where
  name := file.1
  offset := dataOffset
  size := file.2.length
  hashedSize := file.2.length
  hash := Sha256.digest file.2

/-- The entries of files whose data start at the given offset. -/
def entries (dataOffset : Nat) : List File → List Entry
  | [] => []
  | file :: rest => entry dataOffset file :: entries (dataOffset + file.2.length) rest

@[simp] theorem length_record (nameOffset dataOffset : Nat) (file : File) :
    (record nameOffset dataOffset file).length = entrySize := by
  simp [record, (Sha256.digest file.2).length_bytes, entrySize]

@[simp] theorem length_records (nameOffset dataOffset : Nat) (files : List File) :
    (records nameOffset dataOffset files).length = files.length * entrySize := by
  induction files generalizing nameOffset dataOffset with
  | nil => simp [records]
  | cons file rest induction =>
      simp only [records, List.length_append, length_record, induction, List.length_cons]
      rw [Nat.succ_mul, Nat.add_comm]

theorem record_fields {nameOffset dataOffset : Nat} {file : File}
    (dataOffsetFits : dataOffset < 2 ^ 64) (nameOffsetFits : nameOffset < 2 ^ 32)
    (sizeFits : file.2.length < 2 ^ 32) :
    (record nameOffset dataOffset file).numberAt 0x00 8 = dataOffset ∧
      (record nameOffset dataOffset file).numberAt 0x08 8 = file.2.length ∧
      (record nameOffset dataOffset file).numberAt 0x10 4 = nameOffset ∧
      (record nameOffset dataOffset file).numberAt 0x14 4 = file.2.length ∧
      (record nameOffset dataOffset file).slice 0x20 0x20 = (Sha256.digest file.2).bytes := by
  let start := Bytes.ofLittleEndian 8 dataOffset
  let size := Bytes.ofLittleEndian 8 file.2.length
  let name := Bytes.ofLittleEndian 4 nameOffset
  let hashed := Bytes.ofLittleEndian 4 file.2.length
  let digest := (Sha256.digest file.2).bytes
  have digestLength : digest.length = 0x20 := (Sha256.digest file.2).length_bytes
  have layout : record nameOffset dataOffset file =
      start ++ size ++ name ++ hashed ++ Bytes.zeros 8 ++ digest := rfl
  rw [layout]
  refine ⟨?_, ?_, ?_, ?_, ?_⟩
  · simp only [List.append_assoc]
    exact Bytes.numberAt_append_left dataOffsetFits _
  · simp only [List.append_assoc]
    exact Bytes.numberAt_past (by simp [start]) (by omega) _
  · rw [List.append_assoc, List.append_assoc, List.append_assoc]
    exact Bytes.numberAt_past (by simp [start, size]) nameOffsetFits _
  · rw [List.append_assoc, List.append_assoc]
    exact Bytes.numberAt_past (by simp [start, size, name]) sizeFits _
  · rw [Bytes.slice_append_right (by simp [start, size, name, hashed])]
    simp only [start, size, name, hashed, List.length_append, Bytes.length_ofLittleEndian,
      Bytes.length_zeros]
    calc
      digest.slice 0 0x20 = digest.slice 0 digest.length := by rw [digestLength]
      _ = digest := Bytes.slice_zero_length digest

theorem readName_terminated {names after : Bytes} {nameOffset : Nat} {name : String}
    (noZero : '\x00' ∉ name.toList)
    (here : names.drop nameOffset = Utf8.encode name ++ 0 :: after) :
    readName names nameOffset = .ok name := by
  have inside : ¬names.length < nameOffset := by
    intro outside
    rw [List.drop_eq_nil_of_le (Nat.le_of_lt outside)] at here
    exact absurd here (by simp)
  have nonzero : ∀ byte ∈ Utf8.encode name, (byte != 0) = true := by
    intro byte member
    rw [bne_iff_ne]
    intro zero
    subst zero
    exact noZero ((Utf8.zero_mem_encode_iff name).mp member)
  have terminated : (Utf8.encode name ++ 0 :: after).contains 0 = true := by
    simp
  have stops : (Utf8.encode name ++ 0 :: after).takeWhile (· != 0) = Utf8.encode name := by
    rw [List.takeWhile_append_of_pos nonzero, List.takeWhile_cons_of_neg (by decide),
      List.append_nil]
  simp only [readName, if_neg inside, here, terminated, stops, Utf8.decode?_encode,
    Bool.not_true, Bool.false_eq_true, if_false]

theorem readEntry_record {names after : Bytes}
    {tableSize storageSize nameOffset dataOffset : Nat} {file : File}
    (noZero : '\x00' ∉ file.1.toList) (sizeFits : file.2.length < 2 ^ 32)
    (dataOffsetFits : dataOffset < 2 ^ 64) (namesFit : names.length < 2 ^ 32)
    (named : names.drop nameOffset = terminatedName file ++ after)
    (stored : tableSize + dataOffset + file.2.length ≤ storageSize) :
    readEntry names tableSize storageSize (record nameOffset dataOffset file) =
      .ok (entry dataOffset file) := by
  have nameOffsetFits : nameOffset < 2 ^ 32 := by
    have lengths := congrArg List.length named
    simp only [terminatedName, List.length_drop, List.length_append, List.length_singleton]
      at lengths
    omega
  have name : readName names nameOffset = .ok file.1 := by
    apply readName_terminated noZero
    rw [named, terminatedName, List.append_assoc, List.singleton_append]
  obtain ⟨offset, size, nameAt, hashed, digest⟩ :=
    record_fields dataOffsetFits nameOffsetFits sizeFits
  have hash : Block.fit 32 (Sha256.digest file.2).bytes = Sha256.digest file.2 :=
    Block.ext (Bytes.fit_of_length_eq (Sha256.digest file.2).length_bytes)
  simp only [readEntry, offset, size, nameAt, hashed, digest, name, hash, if_pos stored]
  rfl

/-- The records are read back as the entries: at every file, the names still to
come stand at its name offset, and the contents still to come fit behind its data
offset. -/
theorem readEntries_records {names padding : Bytes} {tableSize storageSize : Nat}
    (namesFit : names.length < 2 ^ 32) {files : List File}
    (noZero : ∀ file ∈ files, '\x00' ∉ file.1.toList)
    (sizesFit : ∀ file ∈ files, file.2.length < 2 ^ 32) (nameOffset dataOffset : Nat)
    (named : names.drop nameOffset = files.flatMap terminatedName ++ padding)
    (offsetsFit : dataOffset + (files.flatMap Prod.snd).length < 2 ^ 64)
    (stored : tableSize + dataOffset + (files.flatMap Prod.snd).length ≤ storageSize)
    (after : Bytes) :
    readEntries names tableSize storageSize
        (Bytes.pieces entrySize files.length (records nameOffset dataOffset files ++ after)) =
      .ok (entries dataOffset files) := by
  induction files generalizing nameOffset dataOffset with
  | nil => rfl
  | cons file rest induction =>
      simp only [List.flatMap_cons, List.length_append] at offsetsFit stored
      rw [List.flatMap_cons, List.append_assoc] at named
      have first : readEntry names tableSize storageSize (record nameOffset dataOffset file) =
          .ok (entry dataOffset file) := by
        apply readEntry_record (noZero file List.mem_cons_self)
          (sizesFit file List.mem_cons_self) _ namesFit named
        · omega
        · omega
      -- The running offsets move past the name and the contents of this file.
      have laterNamed : names.drop (nameOffset + (terminatedName file).length) =
          rest.flatMap terminatedName ++ padding := by
        rw [← List.drop_drop, named, List.drop_left]
      have later := induction
        (fun other member => noZero other (List.mem_cons_of_mem file member))
        (fun other member => sizesFit other (List.mem_cons_of_mem file member))
        (nameOffset + (terminatedName file).length) (dataOffset + file.2.length)
        laterNamed (by omega) (by omega)
      rw [records, List.append_assoc, List.length_cons,
        Bytes.pieces_append (length_record nameOffset dataOffset file), readEntries, first,
        later]
      rfl

def header (files : List File) : Bytes :=
  magic ++ Bytes.ofLittleEndian 4 files.length ++
    Bytes.ofLittleEndian 4 (names files).length ++ Bytes.zeros 4

theorem length_header (files : List File) : (header files).length = headerSize := by
  simp [header, magic, headerSize]

theorem table_eq (files : List File) :
    table files = header files ++ (records 0 0 files ++ names files) := by
  simp only [table, header, List.append_assoc]

theorem length_table (files : List File) :
    (table files).length = headerSize + files.length * entrySize + (names files).length := by
  rw [table_eq, List.length_append, List.length_append, length_header, length_records,
    Nat.add_assoc]

/-- The header is read back, whatever follows the table. -/
theorem table_header {files : List File} (countFits : files.length < 2 ^ 32)
    (namesFit : (names files).length < 2 ^ 32) (after : Bytes) :
    (table files ++ after).take 4 = magic ∧
      Bytes.numberAt 4 4 (table files ++ after) = files.length ∧
      Bytes.numberAt 8 4 (table files ++ after) = (names files).length := by
  refine ⟨?_, ?_, ?_⟩
  · simp only [table, List.append_assoc]
    exact List.take_left' rfl
  · simp only [table, List.append_assoc]
    apply Bytes.numberAt_past
    · rfl
    · exact countFits
  · rw [table, List.append_assoc, List.append_assoc, List.append_assoc, List.append_assoc]
    apply Bytes.numberAt_past
    · simp [magic]
    · exact namesFit

/-- The contents of files whose sizes fit their entries end at an offset that
fits its entry. -/
theorem length_contents_lt {files : List File} (countFits : files.length < 2 ^ 32)
    (sizesFit : ∀ file ∈ files, file.2.length < 2 ^ 32) :
    (files.flatMap Prod.snd).length < 2 ^ 64 := by
  have bounded : (files.flatMap Prod.snd).length ≤ files.length * 2 ^ 32 := by
    induction files with
    | nil => exact Nat.zero_le _
    | cons file rest induction =>
        have first := sizesFit file List.mem_cons_self
        have later := induction (Nat.lt_of_succ_lt countFits)
          fun other member => sizesFit other (List.mem_cons_of_mem file member)
        rw [List.flatMap_cons, List.length_append, List.length_cons, Nat.succ_mul]
        omega
  omega

theorem readTable_build {files : List File}
    (noZero : ∀ file ∈ files, '\x00' ∉ file.1.toList) (countFits : files.length < 2 ^ 32)
    (namesFit : (names files).length < 2 ^ 32)
    (sizesFit : ∀ file ∈ files, file.2.length < 2 ^ 32) (salt : Option UInt8) :
    readTable (build files).data (some ((build files).headerHash salt)) salt =
      .ok ⟨entries 0 files, (table files).length, (build files).headerHash salt⟩ := by
  let contents := files.flatMap Prod.snd
  have image : (build files).data = table files ++ contents := rfl
  obtain ⟨start, count, namesLength⟩ := table_header countFits namesFit contents
  have namesAt : namesOffset (table files ++ contents) =
      headerSize + files.length * entrySize := by
    rw [namesOffset, count]
  have size : FileSystem.tableSize (table files ++ contents) = (table files).length := by
    rw [FileSystem.tableSize, namesAt, namesLength, length_table]
  have behindHeader : (table files).drop headerSize = records 0 0 files ++ names files := by
    rw [table_eq]
    exact List.drop_left' (length_header files)
  have behindRecords : (table files).drop (headerSize + files.length * entrySize) =
      names files := by
    rw [← List.drop_drop, behindHeader]
    exact List.drop_left' (length_records 0 0 files)
  have readBack : readRecords (table files ++ contents) = .ok (entries 0 files) := by
    simp only [readRecords, size, count, namesAt, List.take_left, behindRecords, behindHeader]
    apply readEntries_records namesFit noZero sizesFit 0 0
    · rw [List.drop_zero, names]
    · rw [Nat.zero_add]
      exact length_contents_lt countFits sizesFit
    · rw [List.length_append]
      exact Nat.le_refl _
  have hash : (build files).headerHash salt = tableHash (table files) salt := by
    rw [headerHash, image]
    exact congrArg (tableHash · salt) List.take_left
  have long : ¬(table files ++ contents).length < headerSize := by
    rw [List.length_append, length_table]
    omega
  have whole : ¬(table files ++ contents).length < (table files).length := by
    rw [List.length_append]
    omega
  rw [hash, image]
  simp only [readTable, size, List.take_left, start, if_neg long, if_neg whole, readBack]
  simp [Except.map]

/-- A storage that shows the image of files is mounted as them. -/
theorem result_mount_built {files : List File}
    (noZero : ∀ file ∈ files, '\x00' ∉ file.1.toList) (countFits : files.length < 2 ^ 32)
    (namesFit : (names files).length < 2 ^ 32)
    (sizesFit : ∀ file ∈ files, file.2.length < 2 ^ 32) {storage : Storage}
    (shows : storage.Shows (build files).data) (salt : Option UInt8) :
    (mount storage none salt).result =
      .ok ⟨storage, entries 0 files, (table files).length, (build files).headerHash salt⟩ := by
  have read := readTable_of_expected
    (readTable_build noZero countFits namesFit sizesFit salt)
  rw [result_mount shows, read]
  rfl

/-- An entry of a file system is that of a file, and the file can be had from it. -/
structure Holds (fileSystem : FileSystem) (entry : Entry) (file : File) : Prop where
  name_eq : entry.name = file.1
  size_eq : entry.size = file.2.length
  hashedSize_eq : entry.hashedSize = file.2.length
  hash_eq : entry.hash = Sha256.digest file.2
  opens : ∃ data, fileSystem.openEntry entry = .ok data ∧ data.contents.result = .ok file.2
  verifies : (fileSystem.verify entry).result = .ok ()

theorem holds_entry {fileSystem : FileSystem} {before after : Bytes} {file : File}
    (shows : fileSystem.storage.Shows (before ++ (file.2 ++ after))) {dataOffset : Nat}
    (located : before.length = fileSystem.dataOffset + dataOffset) :
    Holds fileSystem (entry dataOffset file) file := by
  let data := Storage.window fileSystem.storage before.length file.2.length
  have fits : before.length + file.2.length ≤ (before ++ (file.2 ++ after)).length := by
    rw [List.length_append, List.length_append]
    omega
  have opened : fileSystem.openEntry (entry dataOffset file) = .ok data := by
    apply Storage.window?_eq_ok_iff.mpr
    simp only [entry, ← located, shows.size_eq]
    exact ⟨fits, rfl⟩
  have shown : data.Shows file.2 := by
    have range := shows.window fits
    rwa [Bytes.slice_append_right (Nat.le_refl _), Nat.sub_self, Bytes.slice_append_left]
      at range
  have covered : min (entry dataOffset file).hashedSize (entry dataOffset file).size =
      file.2.length := Nat.min_self _
  refine ⟨rfl, rfl, rfl, rfl, ⟨data, opened, shown.contents⟩, ?_⟩
  rw [result_verify opened shown (Nat.le_of_eq covered), covered, List.take_length]
  exact if_pos rfl

theorem holds_entries {fileSystem : FileSystem} {before : Bytes} {files : List File}
    (shows : fileSystem.storage.Shows (before ++ files.flatMap Prod.snd)) {dataOffset : Nat}
    (located : before.length = fileSystem.dataOffset + dataOffset) :
    List.Forall₂ (Holds fileSystem) (entries dataOffset files) files := by
  induction files generalizing before dataOffset with
  | nil => exact .nil
  | cons file rest induction =>
      rw [List.flatMap_cons] at shows
      apply List.Forall₂.cons
      · exact holds_entry shows located
      · apply @induction (before ++ file.2)
        · rw [List.append_assoc]
          exact shows
        · rw [List.length_append, located, Nat.add_assoc]

/-- Mounting the image of files gives a file system with exactly their entries, in
order, from which every file can be read and verified. -/
theorem mount_build {files : List File}
    (noZero : ∀ file ∈ files, '\x00' ∉ file.1.toList) (countFits : files.length < 2 ^ 32)
    (namesFit : (names files).length < 2 ^ 32)
    (sizesFit : ∀ file ∈ files, file.2.length < 2 ^ 32) (salt : Option UInt8) :
    ∃ fileSystem,
      (mount (.memory (build files).data) (some ((build files).headerHash salt)) salt).result =
          .ok fileSystem ∧
        List.Forall₂ (Holds fileSystem) fileSystem.entries files := by
  let storage := Storage.memory (build files).data
  let fileSystem : FileSystem :=
    ⟨storage, entries 0 files, (table files).length, (build files).headerHash salt⟩
  have shows : storage.Shows (build files).data := Storage.shows_memory _
  refine ⟨fileSystem, ?_, ?_⟩
  · rw [result_mount shows, readTable_build noZero countFits namesFit sizesFit]
    rfl
  · exact holds_entries shows rfl

/-- Two files of one name, and one without a name and without contents. -/
theorem mount_build_repeatedName :
    ∃ fileSystem,
      (mount (.memory (build [("a", [1, 2]), ("", []), ("a", [3])]).data)
          (some ((build [("a", [1, 2]), ("", []), ("a", [3])]).headerHash (some 1)))
          (some 1)).result = .ok fileSystem ∧
        fileSystem.entries.map Entry.name = ["a", "", "a"] ∧
        fileSystem.entries.map Entry.size = [2, 0, 1] := by
  have noZero : ∀ file ∈ [("a", [1, 2]), ("", []), ("a", ([3] : Bytes))],
      '\x00' ∉ file.1.toList := by
    simp
  have namesFit : (names [("a", [1, 2]), ("", []), ("a", [3])]).length < 2 ^ 32 := by
    decide
  obtain ⟨fileSystem, mounted, held⟩ :=
    mount_build noZero (by decide) namesFit (by simp) (some 1)
  refine ⟨fileSystem, mounted, ?_⟩
  generalize fileSystem.entries = entries at held
  obtain _ | ⟨first, _ | ⟨second, _ | ⟨third, ⟨⟩⟩⟩⟩ := held
  simp [first.name_eq, second.name_eq, third.name_eq, first.size_eq, second.size_eq,
    third.size_eq]

end Gamecard.Image
