import Gamecard.Proofs.Card.Gathering
import Gamecard.Proofs.Card.Split

/-!
# Opening cards

Only the length of the body decides whether a card opens.  Everything that is
read after the fixed structures lies where earlier checks have found room for
it, and whatever does not decrypt or mount becomes a warning.
-/

namespace Gamecard.Card

open SplitImage (bodyBytes)

/-- The storage of the root partition when its address lies in the body. -/
def rootStorage (body : Storage) (header : Header) : Storage :=
  .window (.paged body pageSize) header.rootAddress (body.size - header.rootAddress)

theorem shows_rootStorage {body : Storage} {bytes : Bytes} (shows : body.Shows bytes)
    {header : Header} (inside : header.rootAddress ≤ bytes.length) :
    (rootStorage body header).Shows (bytes.drop header.rootAddress) := by
  have range : (Storage.window (.paged body pageSize) header.rootAddress
      (bytes.length - header.rootAddress)).Shows
        (bytes.slice header.rootAddress (bytes.length - header.rootAddress)) :=
    (shows.paged pageSize).window (by omega)
  rwa [Bytes.slice_rest, ← shows.size_eq] at range

/-- What comes of mounting the root partition of a body. -/
inductive RootOutcome (body : Storage) (header : Header) : Partition → Diagnostics → Prop where
  | absent : body.size < header.rootAddress →
      RootOutcome body header .absent
        [.rootPartitionMount (.outOfRange header.rootAddress 0 body.size)]
  | unmounted {error : Error} : header.rootAddress ≤ body.size →
      (FileSystem.mount (rootStorage body header) (some header.rootHash)
        header.cardInfo.salt?).result = .error error →
      RootOutcome body header ⟨some (rootStorage body header), none⟩ [.rootPartitionMount error]
  | mounted {fileSystem : FileSystem} : header.rootAddress ≤ body.size →
      (FileSystem.mount (rootStorage body header) (some header.rootHash)
        header.cardInfo.salt?).result = .ok fileSystem →
      RootOutcome body header ⟨some (rootStorage body header), some fileSystem⟩ []

/-- Mounting the root partition never fails. -/
theorem result_mountRoot (body : Storage) (header : Header) :
    ∃ root warnings, (mountRoot body header).result = .ok (root, warnings) ∧
      RootOutcome body header root warnings := by
  unfold mountRoot
  by_cases inside : header.rootAddress ≤ body.size
  · have opened : (Storage.paged body pageSize).tail? header.rootAddress =
        .ok (rootStorage body header) :=
      Storage.tail?_eq_ok_iff.mpr ⟨inside, rfl⟩
    simp only [opened]
    rw [Access.result_bind]
    cases mounted : (FileSystem.mount (rootStorage body header) (some header.rootHash)
        header.cardInfo.salt?).result with
    | error error =>
        simp only [Access.attempt, Except.bind, mounted]
        exact ⟨_, _, rfl, .unmounted inside mounted⟩
    | ok fileSystem =>
        simp only [Access.attempt, Except.bind, mounted]
        exact ⟨_, _, rfl, .mounted inside mounted⟩
  · have refused : (Storage.paged body pageSize).tail? header.rootAddress =
        .error (.outOfRange header.rootAddress 0 body.size) :=
      if_neg inside
    simp only [refused]
    exact ⟨_, _, rfl, .absent (Nat.not_le.mp inside)⟩

theorem exists_result_gatherPartitions (root : Partition) :
    ∃ partitions warnings, (gatherPartitions root).result = .ok (partitions, warnings) := by
  unfold gatherPartitions
  split
  · exact ⟨_, _, rfl⟩
  · exact ⟨_, _, rfl⟩

/-- The warnings about the headers of a card that stay encrypted. -/
def headerWarnings (cipher : HeaderCipher) (card : Card) : Diagnostics :=
  (decryptHeader cipher card.header).2 ++
    card.secondHeader.elim [] fun second => (decryptHeader cipher second.header).2

/-- The parts of an opened card, and what comes of its root partition. -/
structure Assembled (storage : Storage) (cipher : HeaderCipher) (card : Card) : Prop where
  parts_eq : (SplitImage.ofImage storage).result = .ok card.parts
  decryptedHeader_eq : card.decryptedHeader = (decryptHeader cipher card.header).1
  isSome_secondHeader : card.secondHeader.isSome = card.header.flags.hasSecondHeader
  root_eq : ∃ rootWarnings partitionWarnings,
    RootOutcome card.parts.body card.decryptedHeader card.root rootWarnings ∧
      (gatherPartitions card.root).result = .ok (card.partitions, partitionWarnings) ∧
      card.diagnostics = headerWarnings cipher card ++ rootWarnings ++ partitionWarnings

theorem assembled_of_ofImage {storage : Storage} {cipher : HeaderCipher} {card : Card}
    (opened : (ofImage storage cipher).result = .ok card) : Assembled storage cipher card := by
  unfold ofImage at opened
  obtain ⟨parts, split, opened⟩ := Access.exists_of_result_bind opened
  obtain ⟨initialData, _, opened⟩ := Access.exists_of_result_bind opened
  obtain ⟨bytes, _, opened⟩ := Access.exists_of_result_bind opened
  simp only at opened
  obtain ⟨certificate, _, opened⟩ := Access.exists_of_result_bind opened
  obtain ⟨⟨root, rootWarnings⟩, rootMounted, opened⟩ := Access.exists_of_result_bind opened
  obtain ⟨⟨partitions, partitionWarnings⟩, gathered, opened⟩ :=
    Access.exists_of_result_bind opened
  cases opened
  obtain ⟨other, otherWarnings, result, outcome⟩ := result_mountRoot parts.body _
  rw [rootMounted] at result
  cases result
  refine ⟨split, rfl, ?_, rootWarnings, partitionWarnings, outcome, gathered, ?_⟩
  · by_cases second : Header.flags (Block.fit 0x200 bytes) |>.hasSecondHeader
    · rw [if_pos second, second]
      rfl
    · rw [if_neg second, Bool.not_eq_true _ |>.mp second]
      rfl
  · simp only [headerWarnings]
    by_cases second : Header.flags (Block.fit 0x200 bytes) |>.hasSecondHeader
    · simp only [if_pos second, Option.elim_some]
      rfl
    · simp only [if_neg second, Option.elim_none]

theorem size_body_le {storage : Storage} {parts : SplitImage}
    (split : (SplitImage.ofImage storage).result = .ok parts) :
    parts.body.size ≤ storage.size := by
  rcases SplitImage.ofImage_cases split with whole | ⟨_, behind⟩
  · exact Nat.le_of_eq (congrArg (fun parts => parts.body.size) whole)
  · rw [behind]
    exact Nat.sub_le _ _

/-- There is one warning if the root partition is not mounted, and none otherwise. -/
theorem RootOutcome.warnings_eq {body : Storage} {header : Header} {root : Partition}
    {warnings : Diagnostics} (outcome : RootOutcome body header root warnings) :
    (root.fileSystem = none ∧ ∃ error, warnings = [.rootPartitionMount error]) ∨
      (root.fileSystem.isSome ∧ warnings = []) := by
  cases outcome with
  | absent beyond => exact .inl ⟨rfl, _, rfl⟩
  | unmounted inside failed => exact .inl ⟨rfl, _, rfl⟩
  | mounted inside read => exact .inr ⟨rfl, rfl⟩

theorem RootOutcome.fileSystem_eq {body : Storage} {header : Header} {root : Partition}
    {warnings : Diagnostics} (outcome : RootOutcome body header root warnings)
    (inside : header.rootAddress ≤ body.size) {fileSystem : FileSystem}
    (mounts : (FileSystem.mount (rootStorage body header) (some header.rootHash)
      header.cardInfo.salt?).result = .ok fileSystem) :
    root.fileSystem = some fileSystem := by
  cases outcome with
  | absent beyond => exact absurd inside (Nat.not_le.mpr beyond)
  | unmounted _ failed =>
      rw [mounts] at failed
      cases failed
  | mounted _ other =>
      rw [mounts] at other
      cases other
      rfl

theorem RootOutcome.of_mounted {body : Storage} {header : Header} {root : Partition}
    {warnings : Diagnostics} (outcome : RootOutcome body header root warnings)
    {fileSystem : FileSystem} (mounted : root.fileSystem = some fileSystem) :
    header.rootAddress ≤ body.size ∧ fileSystem.storage = rootStorage body header ∧
      fileSystem.Contained := by
  cases outcome with
  | absent beyond => cases mounted
  | unmounted inside failed => cases mounted
  | mounted inside read =>
      cases mounted
      exact ⟨inside, FileSystem.contained_of_mount read⟩

namespace Assembled

variable {storage : Storage} {cipher : HeaderCipher} {card : Card}

/-- A card whose root partition is not mounted has no partitions. -/
theorem of_unmounted (assembled : Assembled storage cipher card)
    (unmounted : card.root.fileSystem = none) :
    (∃ error, card.diagnostics = headerWarnings cipher card ++ [.rootPartitionMount error]) ∧
      ∀ kind, card.partition kind = .absent := by
  obtain ⟨rootWarnings, partitionWarnings, outcome, gathered, diagnostics⟩ := assembled.root_eq
  rcases outcome.warnings_eq with ⟨_, error, warnings⟩ | ⟨mounted, _⟩
  · rw [gatherPartitions, unmounted] at gathered
    obtain ⟨noPartitions, noWarnings⟩ := Prod.mk.inj (Except.ok.inj gathered)
    refine ⟨⟨error, ?_⟩, ?_⟩
    · rw [diagnostics, warnings, ← noWarnings, List.append_nil]
    · intro kind
      rw [partition, ← noPartitions]
      cases kind <;> rfl
  · rw [unmounted] at mounted
    cases mounted

theorem root_contained (assembled : Assembled storage cipher card) {root : FileSystem}
    (mounted : card.root.fileSystem = some root) :
    root.storage = rootStorage card.parts.body card.decryptedHeader ∧ root.Contained := by
  obtain ⟨_, _, outcome, _, _⟩ := assembled.root_eq
  exact (outcome.of_mounted mounted).2

/-- The entries of a mounted root partition decide about the partitions and the
warnings. -/
theorem of_mounted (assembled : Assembled storage cipher card) {root : FileSystem}
    (mounted : card.root.fileSystem = some root) :
    card.diagnostics =
        headerWarnings cipher card ++ root.entries.flatMap (entryWarnings root) ∧
      ∀ kind, card.partition kind =
        (FileSystem.lastNamed? root.entries kind.name).elim .absent (entryPartition root) := by
  obtain ⟨rootWarnings, partitionWarnings, outcome, gathered, diagnostics⟩ := assembled.root_eq
  obtain ⟨_, contained⟩ := assembled.root_contained mounted
  obtain ⟨partitions, result, each⟩ := result_gatherPartitions contained card.root.storage
  have whole : card.root = ⟨card.root.storage, some root⟩ := by
    rw [← mounted]
  rw [whole, result] at gathered
  obtain ⟨samePartitions, sameWarnings⟩ := Prod.mk.inj (Except.ok.inj gathered)
  refine ⟨?_, ?_⟩
  · rcases outcome.warnings_eq with ⟨unmounted, _⟩ | ⟨_, warnings⟩
    · rw [mounted] at unmounted
      cases unmounted
    · rw [diagnostics, warnings, ← sameWarnings, List.append_nil]
  · intro kind
    rw [partition, ← samePartitions, each]

/-- A partition is absent or that of the last entry of its name. -/
theorem partition_cases (assembled : Assembled storage cipher card) (kind : PartitionKind) :
    card.partition kind = .absent ∨
      ∃ root entry, card.root.fileSystem = some root ∧
        FileSystem.lastNamed? root.entries kind.name = some entry ∧
        card.partition kind = entryPartition root entry := by
  cases mounted : card.root.fileSystem with
  | none =>
      obtain ⟨_, absent⟩ := assembled.of_unmounted mounted
      exact .inl (absent kind)
  | some root =>
      obtain ⟨_, each⟩ := assembled.of_mounted mounted
      rw [each kind]
      cases last : FileSystem.lastNamed? root.entries kind.name with
      | none => exact .inl rfl
      | some entry => exact .inr ⟨root, entry, rfl, last, rfl⟩

/-- No warning is about anything but the headers, the root partition and what is
in it. -/
theorem mem_diagnostics (assembled : Assembled storage cipher card) {warning : Warning}
    (member : warning ∈ card.diagnostics) :
    warning ∈ headerWarnings cipher card ∨ AboutPartitions warning := by
  cases mounted : card.root.fileSystem with
  | none =>
      obtain ⟨⟨cause, diagnostics⟩, _⟩ := assembled.of_unmounted mounted
      rw [diagnostics] at member
      rcases List.mem_append.mp member with header | root
      · exact .inl header
      · rw [List.mem_singleton.mp root]
        exact .inr (.root cause)
  | some root =>
      obtain ⟨diagnostics, _⟩ := assembled.of_mounted mounted
      rw [diagnostics] at member
      rcases List.mem_append.mp member with header | listed
      · exact .inl header
      · obtain ⟨entry, _, about⟩ := List.mem_flatMap.mp listed
        exact .inr (mem_entryWarnings about)

end Assembled

/-- If the partition is mounted, all its files lie within a storage of no more
than this many bytes. -/
def StaysWithin (partition : Partition) (limit : Nat) : Prop :=
  ∀ fileSystem, partition.fileSystem = some fileSystem →
    fileSystem.Contained ∧ fileSystem.storage.size ≤ limit

theorem Assembled.root_staysWithin {storage : Storage} {cipher : HeaderCipher} {card : Card}
    (assembled : Assembled storage cipher card) : StaysWithin card.root storage.size := by
  intro root mounted
  obtain ⟨place, contained⟩ := assembled.root_contained mounted
  have bodySize := size_body_le assembled.parts_eq
  have rootSize : root.storage.size =
      card.parts.body.size - card.decryptedHeader.rootAddress := by
    rw [place]
    rfl
  exact ⟨contained, by omega⟩

/-- A mounted partition is mounted from the storage of its entry. -/
theorem entryPartition_mounted {root fileSystem : FileSystem} {entry : Entry}
    (mounted : (entryPartition root entry).fileSystem = some fileSystem) :
    fileSystem.storage = root.entryStorage entry ∧ fileSystem.Contained := by
  simp only [entryPartition] at mounted
  cases result : (FileSystem.mount (root.entryStorage entry) none none).result with
  | error error =>
      rw [result] at mounted
      cases mounted
  | ok other =>
      rw [result] at mounted
      cases mounted
      exact FileSystem.contained_of_mount result

theorem entryPartition_staysWithin {root : FileSystem} (contained : root.Contained)
    {entry : Entry} (member : entry ∈ root.entries) :
    StaysWithin (entryPartition root entry) root.storage.size := by
  intro fileSystem mounted
  have inside := contained entry member
  obtain ⟨place, ownContained⟩ := entryPartition_mounted mounted
  have size : fileSystem.storage.size = entry.size := by
    rw [place]
    rfl
  exact ⟨ownContained, by omega⟩

theorem Assembled.partition_staysWithin {storage : Storage} {cipher : HeaderCipher}
    {card : Card} (assembled : Assembled storage cipher card) (kind : PartitionKind) :
    StaysWithin (card.partition kind) storage.size := by
  rcases assembled.partition_cases kind with absent | ⟨root, entry, mounted, last, same⟩
  · rw [absent]
    intro fileSystem impossible
    cases impossible
  · obtain ⟨contained, rootSize⟩ := assembled.root_staysWithin root mounted
    rw [same]
    intro fileSystem partitionMounted
    obtain ⟨ownContained, size⟩ := entryPartition_staysWithin contained
      (FileSystem.mem_of_lastNamed? last) fileSystem partitionMounted
    exact ⟨ownContained, Nat.le_trans size rootSize⟩

theorem result_readInitialData {parts : SplitImage} {image : Bytes} (shows : parts.Shows image) :
    ∃ initialData, (readInitialData parts.keyArea).result = .ok initialData := by
  by_cases hasKeyArea : SplitImage.HasKeyArea image
  · obtain ⟨keyArea, present, keyAreaShows⟩ := shows.keyArea hasKeyArea
    have long := hasKeyArea.1
    have within : 0 + 0x200 ≤ (image.take 0x1000).length := by
      rw [List.length_take]
      omega
    rw [present, readInitialData, keyAreaShows.result_read_bind within]
    exact ⟨_, rfl⟩
  · rw [shows.noKeyArea hasKeyArea]
    exact ⟨_, rfl⟩

/-- A body with room for the fixed structures opens. -/
theorem result_ofImage {storage : Storage} {image : Bytes} (shows : storage.Shows image)
    (cipher : HeaderCipher) (long : 0x7200 ≤ (bodyBytes image).length) :
    ∃ card, (ofImage storage cipher).result = .ok card := by
  have longer := SplitImage.length_bodyBytes_le image
  obtain ⟨parts, split, partsShow⟩ := SplitImage.result_ofImage shows (by omega)
  obtain ⟨initialData, initialRead⟩ := result_readInitialData partsShow
  have body := partsShow.body
  have front : 0 + bodyHeaderSize ≤ (bodyBytes image).length := by
    have size : bodyHeaderSize = 0x800 := rfl
    omega
  have back : certificateOffset + 0x200 ≤ (bodyBytes image).length := long
  unfold ofImage
  rw [Access.result_bind_of_eq_ok split, Access.result_bind_of_eq_ok initialRead,
    body.result_read_bind front]
  simp only
  rw [body.result_read_bind back]
  -- Neither the root partition nor the partitions in it can make this fail.
  obtain ⟨root, rootWarnings, mounted, _⟩ := result_mountRoot parts.body
    (decryptHeader cipher (Block.fit 0x200 (Bytes.slice 0 bodyHeaderSize (bodyBytes image)))).1
  obtain ⟨partitions, partitionWarnings, gathered⟩ := exists_result_gatherPartitions root
  rw [Access.result_bind_of_eq_ok mounted, Access.result_bind_of_eq_ok gathered]
  exact ⟨_, rfl⟩

/-- The error of a read that would leave a storage. -/
inductive EndsEarly : Error → Prop where
  | read {length offset size : Nat} : size < offset + length →
      EndsEarly (.storage (.pastEnd length offset size))

/-- A body without room for the fixed structures is found to end early. -/
theorem result_ofImage_of_short {storage : Storage} {image : Bytes} (shows : storage.Shows image)
    (cipher : HeaderCipher) (short : (bodyBytes image).length < 0x7200) :
    ∃ error, (ofImage storage cipher).result = .error error ∧ EndsEarly error := by
  unfold ofImage
  by_cases fits : image.length < 0x1000 ∨ 0x1200 ≤ image.length
  · obtain ⟨parts, split, partsShow⟩ := SplitImage.result_ofImage shows fits
    obtain ⟨initialData, initialRead⟩ := result_readInitialData partsShow
    have body := partsShow.body
    rw [Access.result_bind_of_eq_ok split, Access.result_bind_of_eq_ok initialRead]
    by_cases front : 0 + bodyHeaderSize ≤ (bodyBytes image).length
    · have beyond : (bodyBytes image).length < certificateOffset + 0x200 := short
      rw [body.result_read_bind front, body.result_read_bind_beyond beyond]
      exact ⟨_, rfl, .read beyond⟩
    · have beyond := Nat.not_le.mp front
      rw [body.result_read_bind_beyond beyond]
      exact ⟨_, rfl, .read beyond⟩
  · have behind : 0x1000 ≤ image.length := by omega
    have failed := SplitImage.result_ofImage_of_probe_fails shows behind (by omega)
    rw [Access.result_bind, failed]
    refine ⟨_, rfl, .read ?_⟩
    change image.length < 0x1000 + 0x200
    omega

theorem opens_iff {storage : Storage} {image : Bytes} (shows : storage.Shows image)
    (cipher : HeaderCipher) :
    (∃ card, (ofImage storage cipher).result = .ok card) ↔
      0x7200 ≤ (bodyBytes image).length := by
  constructor
  · intro opens
    obtain ⟨card, opened⟩ := opens
    rcases Nat.lt_or_ge (bodyBytes image).length 0x7200 with short | long
    · obtain ⟨error, failed, _⟩ := result_ofImage_of_short shows cipher short
      rw [opened] at failed
      cases failed
    · exact long
  · intro long
    exact result_ofImage shows cipher long

end Gamecard.Card
