import Gamecard.Proofs.Card.Building
import Gamecard.Proofs.Card.Undecrypted

/-!
# The partitions of an opened card

The table of the root partition decides about the partitions of a card and
about the warnings behind those for its headers.  Of the entries that share a
name only the last one makes a partition, and each of them makes its warnings.
That an entry does not open is never among them.
-/

namespace Gamecard.Card

open SplitImage (bodyBytes)

theorem mem_headerWarnings {cipher : HeaderCipher} {card : Card} {warning : Warning}
    (member : warning ∈ headerWarnings cipher card) :
    ∃ error, warning = .headerNotDecrypted error := by
  rw [headerWarnings_eq_failures] at member
  obtain ⟨error, _, same⟩ := List.mem_map.mp member
  exact ⟨error, same.symm⟩

/-- Without a mounted root partition there is one warning about it and no
partition. -/
structure WithoutRoot (card : Card) (warnings : Diagnostics) : Prop where
  warnings_eq : ∃ error, warnings = [.rootPartitionMount error]
  partition_eq : ∀ kind, card.partition kind = .absent

/-- The partitions and the warnings are those of the entries of a root partition. -/
structure FollowsRoot (card : Card) (root : FileSystem) (warnings : Diagnostics) : Prop where
  openEntry_eq : ∀ entry ∈ root.entries, root.openEntry entry = .ok (root.entryStorage entry)
  warnings_eq : warnings = root.entries.flatMap (entryWarnings root)
  isSome_storage_iff : ∀ kind, (card.partition kind).storage.isSome ↔
    ∃ entry ∈ root.entries, entry.name = kind.name
  partition_eq : ∀ kind, card.partition kind =
    (FileSystem.lastNamed? root.entries kind.name).elim .absent (entryPartition root)

/-- A storage that is read and mounted as these bytes. -/
structure StandsFor (storage : Storage) (bytes : Bytes) : Prop where
  shows : storage.Shows bytes
  mount_eq : (FileSystem.mount storage none none).result =
    (FileSystem.mount (.memory bytes) none none).result.map fun fileSystem =>
      { fileSystem with storage }

theorem StandsFor.fileWarnings_eq {storage : Storage} {bytes : Bytes}
    (standsFor : StandsFor storage bytes) (name : String) :
    fileWarnings name storage = fileWarnings name (.memory bytes) := by
  unfold fileWarnings mountWarnings
  rw [standsFor.mount_eq]
  cases (FileSystem.mount (.memory bytes) none none).result <;> rfl

namespace Assembled

variable {storage : Storage} {cipher : HeaderCipher} {card : Card}

theorem partitionOpen_notMem (assembled : Assembled storage cipher card) (name : String)
    (error : Error) : .partitionOpen name error ∉ card.diagnostics := by
  intro member
  rcases assembled.mem_diagnostics member with header | partition
  · obtain ⟨_, same⟩ := mem_headerWarnings header
    cases same
  · cases partition

theorem followsRoot (assembled : Assembled storage cipher card) {root : FileSystem}
    (mounted : card.root.fileSystem = some root) :
    FollowsRoot card root (root.entries.flatMap (entryWarnings root)) := by
  obtain ⟨_, contained⟩ := assembled.root_contained mounted
  obtain ⟨_, partitions⟩ := assembled.of_mounted mounted
  refine ⟨?_, rfl, ?_, partitions⟩
  · intro entry member
    exact contained.openEntry_eq member
  · intro kind
    rw [partitions kind, ← FileSystem.isSome_lastNamed?_iff]
    cases FileSystem.lastNamed? root.entries kind.name with
    | none => exact Iff.rfl
    | some entry => exact Iff.rfl

/-- The files of the root partition are where its table says, behind the place of
the root partition in the body. -/
theorem standsFor (assembled : Assembled storage cipher card) {image : Bytes}
    (shows : storage.Shows image) {root : FileSystem}
    (mounted : card.root.fileSystem = some root) {entry : Entry}
    (member : entry ∈ root.entries) :
    StandsFor (root.entryStorage entry)
      ((bodyBytes image).slice
        (card.decryptedHeader.rootAddress + (root.dataOffset + entry.offset)) entry.size) := by
  have partsShow := SplitImage.shows_of_ofImage shows assembled.parts_eq
  obtain ⟨_, _, outcome, _, _⟩ := assembled.root_eq
  obtain ⟨inside, place, contained⟩ := outcome.of_mounted mounted
  rw [partsShow.body.size_eq] at inside
  have rootShows := shows_rootStorage partsShow.body inside
  rw [← place] at rootShows
  have entryShows := contained.shows_entry member rootShows
  rw [Bytes.slice_drop] at entryShows
  exact ⟨entryShows, FileSystem.result_mount_memory entryShows none none⟩

end Assembled

/-- The warnings of an opened card are those about its headers and behind them
those that follow, like the partitions, from what became of the root partition. -/
theorem partitions_of_rootTable {storage : Storage} {cipher : HeaderCipher} {card : Card}
    (opened : (ofImage storage cipher).result = .ok card) :
    (∃ warnings, card.diagnostics = headerWarnings cipher card ++ warnings ∧
        match card.root.fileSystem with
        | none => WithoutRoot card warnings
        | some root => FollowsRoot card root warnings) ∧
      (∀ warning ∈ headerWarnings cipher card, ∃ error, warning = .headerNotDecrypted error) ∧
      (∀ name error, .partitionOpen name error ∉ card.diagnostics) ∧
      ∀ image root, storage.Shows image → card.root.fileSystem = some root →
        ∀ entry ∈ root.entries, StandsFor (root.entryStorage entry)
          ((bodyBytes image).slice
            (card.decryptedHeader.rootAddress + (root.dataOffset + entry.offset))
            entry.size) := by
  have assembled := assembled_of_ofImage opened
  refine ⟨?_, fun warning => mem_headerWarnings, assembled.partitionOpen_notMem, ?_⟩
  · cases mounted : card.root.fileSystem with
    | none =>
        obtain ⟨⟨error, diagnostics⟩, absent⟩ := assembled.of_unmounted mounted
        exact ⟨_, diagnostics, ⟨error, rfl⟩, absent⟩
    | some root =>
        obtain ⟨diagnostics, _⟩ := assembled.of_mounted mounted
        exact ⟨_, diagnostics, assembled.followsRoot mounted⟩
  · intro image root shows mounted entry member
    exact assembled.standsFor shows mounted member

/-- A partition, an entry of another name, and a second entry for the partition
that does not mount. -/
def supersededFiles : List Image.File :=
  [("normal", FileSystem.magic ++ Bytes.zeros 12), ("odd", []), ("normal", [])]

theorem partitions_of_rootTable_superseded :
    ∃ card, (ofImage (.memory (imageOfFiles supersededFiles))
        (cipherOfFiles supersededFiles)).result = .ok card ∧
      card.diagnostics = [.unrecognizedPartition "odd",
        .partitionMount "normal" (.malformedTable .truncatedHeader)] ∧
      (card.partition .normal).storage.isSome ∧ (card.partition .normal).fileSystem = none ∧
      card.partition .update = .absent := by
  obtain ⟨card, root, opened, mounted, address, entries, behind⟩ :=
    @opens_imageOfFiles supersededFiles (by decide) (by decide) (by decide) (by decide)
  obtain ⟨⟨warnings, diagnostics, follows⟩, _, _, places⟩ := partitions_of_rootTable opened
  simp only [mounted] at follows
  have standsFor (entry : Entry) (member : entry ∈ Image.entries 0 supersededFiles) :
      StandsFor (root.entryStorage entry)
        (Bytes.slice entry.offset entry.size (supersededFiles.flatMap Prod.snd)) := by
    have place := places _ root (Storage.shows_memory _) mounted entry (entries ▸ member)
    rwa [address, behind, slice_imageOfFiles] at place
  have each (entry : Entry) (member : entry ∈ Image.entries 0 supersededFiles) :
      entryWarnings root entry = fileWarnings entry.name
        (.memory (Bytes.slice entry.offset entry.size (supersededFiles.flatMap Prod.snd))) :=
    (standsFor entry member).fileWarnings_eq entry.name
  have normal := follows.partition_eq .normal
  have update := follows.partition_eq .update
  rw [entries] at normal update
  refine ⟨card, opened, ?_, ?_, ?_, ?_⟩
  · rw [diagnostics, headerWarnings_cipherOfFiles, follows.warnings_eq, entries,
      List.nil_append, List.flatMap_congr each]
    rfl
  · rw [normal]
    rfl
  · have last : FileSystem.lastNamed? (Image.entries 0 supersededFiles) "normal" =
        some (Image.entry 16 ("normal", [])) := rfl
    have mounts := (standsFor _ (FileSystem.mem_of_lastNamed? last)).mount_eq
    rw [normal, PartitionKind.name, last, Option.elim_some, entryPartition, mounts]
    rfl
  · rw [update]
    rfl

end Gamecard.Card
