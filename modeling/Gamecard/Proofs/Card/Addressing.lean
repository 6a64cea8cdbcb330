import Gamecard.Proofs.Card.Building

/-!
# Addresses of files

The place of a file of a partition is the sum of six offsets: that of the body,
that of the root partition in it, those of the data and of the entry in the root
partition, and those of the data and of the entry in the partition.  Each range
lies within the one around it, as what was checked when the card was opened
adds up.
-/

namespace Gamecard

/-- Where the body of an image starts. -/
def SplitImage.bodyStart (parts : SplitImage) : Nat :=
  if parts.keyArea.isSome then 0x1000 else 0

theorem SplitImage.showsRange_body {storage : Storage} {image : Bytes}
    (shows : storage.Shows image) {parts : SplitImage}
    (split : (ofImage storage).result = .ok parts) :
    parts.body.ShowsRange image parts.bodyStart (image.length - parts.bodyStart) := by
  rcases ofImage_cases split with whole | ⟨long, behind⟩
  · rw [whole]
    exact shows.whole
  · rw [shows.size_eq] at long behind
    rw [behind]
    have window := shows.whole.window (Nat.le_of_eq (Nat.add_sub_cancel' long))
    rwa [Nat.zero_add] at window

/-- The file of an entry starts behind the table, at the offset of the entry. -/
theorem FileSystem.Contained.showsRange_entry {fileSystem : FileSystem}
    (contained : fileSystem.Contained) {entry : Entry} (member : entry ∈ fileSystem.entries)
    {image : Bytes} {start size : Nat} (range : fileSystem.storage.ShowsRange image start size) :
    (fileSystem.entryStorage entry).ShowsRange image
      (start + fileSystem.dataOffset + entry.offset) entry.size := by
  have fits : fileSystem.dataOffset + entry.offset + entry.size ≤ size := by
    rw [← range.size_eq]
    exact contained entry member
  rw [Nat.add_assoc]
  exact range.window fits

namespace Card

variable {storage : Storage} {image : Bytes} {cipher : HeaderCipher} {card : Card}

/-- Where the root partition of a card starts in its image. -/
def rootStart (card : Card) : Nat :=
  card.parts.bodyStart + card.decryptedHeader.rootAddress

theorem showsRange_rootStorage {body : Storage} {start size : Nat}
    (range : body.ShowsRange image start size) {header : Header}
    (inside : header.rootAddress ≤ size) :
    (rootStorage body header).ShowsRange image (start + header.rootAddress)
      (size - header.rootAddress) := by
  rw [rootStorage, range.size_eq]
  exact (range.paged pageSize).window (Nat.le_of_eq (Nat.add_sub_cancel' inside))

theorem Assembled.showsRange_root (assembled : Assembled storage cipher card)
    (shows : storage.Shows image) {root : FileSystem}
    (mounted : card.root.fileSystem = some root) :
    root.storage.ShowsRange image card.rootStart
      (image.length - card.parts.bodyStart - card.decryptedHeader.rootAddress) := by
  have body := SplitImage.showsRange_body shows assembled.parts_eq
  obtain ⟨_, _, outcome, _, _⟩ := assembled.root_eq
  obtain ⟨inside, place, _⟩ := outcome.of_mounted mounted
  rw [body.size_eq] at inside
  rw [place]
  exact showsRange_rootStorage body inside

/-- A mounted partition is that of the last entry of its name. -/
theorem Assembled.partition_mounted (assembled : Assembled storage cipher card)
    {kind : PartitionKind} {fileSystem : FileSystem}
    (mounted : (card.partition kind).fileSystem = some fileSystem) :
    ∃ root entry, card.root.fileSystem = some root ∧
      FileSystem.lastNamed? root.entries kind.name = some entry ∧
      fileSystem.storage = root.entryStorage entry ∧ fileSystem.Contained := by
  rcases assembled.partition_cases kind with absent | ⟨root, entry, rootMounted, last, same⟩
  · rw [absent] at mounted
    cases mounted
  · rw [same] at mounted
    obtain ⟨place, contained⟩ := entryPartition_mounted mounted
    exact ⟨root, entry, rootMounted, last, place, contained⟩

/-- Opening a file of a mounted partition gives the bytes of the image at the sum of
the offsets.  They lie within the root entry of the partition, which lies within
the root partition, and no read of the file gives anything else. -/
theorem file_addresses (shows : storage.Shows image)
    (opened : (ofImage storage cipher).result = .ok card) {kind : PartitionKind}
    {fileSystem : FileSystem}
    (mounted : (card.partition kind).fileSystem = some fileSystem) {file : Entry}
    (member : file ∈ fileSystem.entries) :
    ∃ root entry partitionStart start,
      card.root.fileSystem = some root ∧
        FileSystem.lastNamed? root.entries kind.name = some entry ∧
        partitionStart = card.rootStart + root.dataOffset + entry.offset ∧
        start = partitionStart + fileSystem.dataOffset + file.offset ∧
        card.rootStart ≤ partitionStart ∧ partitionStart + entry.size ≤ image.length ∧
        partitionStart ≤ start ∧ start + file.size ≤ partitionStart + entry.size ∧
        (fileSystem.contents file).result = .ok (image.slice start file.size) ∧
        ∃ data, fileSystem.openEntry file = .ok data ∧
          (∀ offset length, offset + length ≤ file.size →
            (data.read offset length).result = .ok (image.slice (start + offset) length)) ∧
          ∀ offset length, file.size < offset + length →
            (data.read offset length).result = .error (.pastEnd length offset file.size) := by
  have assembled := assembled_of_ofImage opened
  obtain ⟨root, entry, rootMounted, last, place, contained⟩ :=
    assembled.partition_mounted mounted
  obtain ⟨_, rootContained⟩ := assembled.root_contained rootMounted
  have rootRange := assembled.showsRange_root shows rootMounted
  have entryRange := rootContained.showsRange_entry (FileSystem.mem_of_lastNamed? last) rootRange
  rw [← place] at entryRange
  have fileRange := contained.showsRange_entry member entryRange
  have openedFile := contained.openEntry_eq member
  have fits := contained file member
  rw [entryRange.size_eq] at fits
  refine ⟨root, entry, _, _, rootMounted, last, rfl, rfl, by omega, entryRange.inside, by omega,
    by omega, ?_, _, openedFile, ?_, ?_⟩
  · rw [FileSystem.contents, Access.result_bind_of_eq_ok openedFile]
    exact Access.result_mapError_of_eq_ok fileRange.shows.contents _
  · intro offset length within
    exact fileRange.read_within within
  · intro offset length beyond
    exact fileRange.read_beyond beyond

theorem rootStart_imageOfFiles {files : List Image.File}
    (opened : (ofImage (.memory (imageOfFiles files)) cipher).result = .ok card) :
    card.rootStart = card.decryptedHeader.rootAddress := by
  have assembled := assembled_of_ofImage opened
  have parts := SplitImage.shows_of_ofImage (Storage.shows_memory _) assembled.parts_eq
  rw [rootStart, SplitImage.bodyStart, parts.noKeyArea (not_hasKeyArea_imageOfFiles files)]
  exact Nat.zero_add _

def innerFiles : List Image.File := [("a", [1, 2, 3])]

/-- A root partition with one partition, which has one file. -/
def nestedFiles : List Image.File := [("normal", (Image.build innerFiles).data)]

theorem length_innerFiles : (Image.build innerFiles).data.length = 0x73 := by
  have table : (Image.table innerFiles).length = 0x70 := Image.length_table innerFiles
  rw [Image.build, List.length_append, table]
  rfl

theorem slice_nestedFiles (offset length : Nat) :
    (imageOfFiles nestedFiles).slice (0x7200 + (Image.table nestedFiles).length + offset) length =
      Bytes.slice offset length (Image.build innerFiles).data := by
  have whole : nestedFiles.flatMap Prod.snd = (Image.build innerFiles).data :=
    List.append_nil _
  have range := slice_imageOfFiles nestedFiles offset length
  rwa [bodyBytes_imageOfFiles, whole, ← Nat.add_assoc] at range

theorem lastNamed?_nestedFiles :
    FileSystem.lastNamed? (Image.entries 0 nestedFiles) "normal" =
      some (Image.entry 0 ("normal", (Image.build innerFiles).data)) :=
  rfl

/-- The card opens and mounts the file of its root partition as a partition. -/
theorem opens_nestedFiles :
    ∃ card root fileSystem,
      (ofImage (.memory (imageOfFiles nestedFiles)) (cipherOfFiles nestedFiles)).result =
          .ok card ∧
        card.rootStart = 0x7200 ∧ card.root.fileSystem = some root ∧
        root.entries = Image.entries 0 nestedFiles ∧
        root.dataOffset = (Image.table nestedFiles).length ∧
        (card.partition .normal).fileSystem = some fileSystem ∧
        fileSystem.entries = Image.entries 0 innerFiles ∧
        fileSystem.dataOffset = (Image.table innerFiles).length := by
  have sizesFit : ∀ file ∈ nestedFiles, file.2.length < 2 ^ 32 := by
    rw [nestedFiles, List.forall_mem_singleton, length_innerFiles]
    decide
  obtain ⟨card, root, opened, rootMounted, address, entries, behind⟩ :=
    @opens_imageOfFiles nestedFiles (by decide) (by decide) (by decide) sizesFit
  have assembled := assembled_of_ofImage opened
  have rootPlace : card.rootStart = 0x7200 := (rootStart_imageOfFiles opened).trans address
  have last := lastNamed?_nestedFiles
  rw [← entries] at last
  have partitionShows : (root.entryStorage (Image.entry 0
      ("normal", (Image.build innerFiles).data))).Shows (Image.build innerFiles).data := by
    obtain ⟨_, contained⟩ := assembled.root_contained rootMounted
    have range := (contained.showsRange_entry (FileSystem.mem_of_lastNamed? last)
      (assembled.showsRange_root (Storage.shows_memory _) rootMounted)).shows
    have all : Bytes.slice 0 (Image.build innerFiles).data.length (Image.build innerFiles).data =
        (Image.build innerFiles).data := Bytes.slice_zero_length _
    rwa [rootPlace, behind, slice_nestedFiles, Image.entry, all] at range
  have mounts := @Image.result_mount_built innerFiles (by decide) (by decide) (by decide)
    (by decide) _ partitionShows none
  obtain ⟨_, each⟩ := assembled.of_mounted rootMounted
  have normal := each .normal
  rw [PartitionKind.name, last, Option.elim_some, entryPartition, mounts] at normal
  exact ⟨card, root, _, opened, rootPlace, rootMounted, entries, behind,
    congrArg Partition.fileSystem normal, rfl, rfl⟩

theorem file_addresses_nested :
    ∃ card fileSystem file,
      (ofImage (.memory (imageOfFiles nestedFiles)) (cipherOfFiles nestedFiles)).result =
          .ok card ∧
        (card.partition .normal).fileSystem = some fileSystem ∧ file ∈ fileSystem.entries ∧
        file.name = "a" ∧ (fileSystem.contents file).result = .ok [1, 2, 3] := by
  obtain ⟨card, root, fileSystem, opened, rootPlace, rootMounted, entries, behind, mounted,
    innerEntries, innerBehind⟩ := opens_nestedFiles
  have member : Image.entry 0 ("a", [1, 2, 3]) ∈ fileSystem.entries := by
    rw [innerEntries]
    exact List.mem_cons_self
  obtain ⟨otherRoot, entry, partitionStart, start, sameRoot, last, partitionPlace, place,
    _, _, _, _, contents, _⟩ := file_addresses (Storage.shows_memory _) opened mounted member
  rw [rootMounted] at sameRoot
  cases sameRoot
  rw [entries, PartitionKind.name, lastNamed?_nestedFiles] at last
  cases last
  have sum : start = 0x7200 + (Image.table nestedFiles).length +
      (Image.table innerFiles).length := by
    rw [place, partitionPlace, rootPlace, behind, innerBehind]
    rfl
  have here : Bytes.slice (Image.table innerFiles).length 3 (Image.build innerFiles).data =
      [1, 2, 3] := by
    refine (Bytes.slice_append_right (Nat.le_refl _) 3).trans ?_
    rw [Nat.sub_self]
    rfl
  refine ⟨card, fileSystem, _, opened, mounted, member, rfl, ?_⟩
  rw [contents, sum, slice_nestedFiles, ← here]
  rfl

end Card

end Gamecard
