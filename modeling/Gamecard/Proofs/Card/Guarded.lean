import Gamecard.Card.Guarded
import Gamecard.Proofs.Card.Opening
import Gamecard.Proofs.FileSystem.Guarded

/-!
# Opening gets past every guard

The fields of a header lie within it, and the parts of an image within the image.  The
root partition and the partitions in it are storages whose sums are words, however their
tables and the header place them, so that whatever an image holds, opening it ends with
what comes of the reads.
-/

namespace Gamecard

namespace Header

variable {ε : Type}

theorem fieldGuarded_eq (header : Header) {offset length : Nat}
    (within : offset + length ≤ 0x100) :
    (header.fieldGuarded offset length : Guarded ε Bytes) =
      pure (header.bytes.slice (start + offset) length) := by
  have place : start = 0x100 := rfl
  have word : Guarded.wordLimit = 0x10000000000000000 := rfl
  have long : start + offset + length ≤ header.bytes.length := by
    rw [header.length_bytes]
    omega
  rw [fieldGuarded, Guarded.add_eq (by omega), Guarded.pure_bind, Guarded.add_eq (by omega),
    Guarded.pure_bind, Guarded.cut_eq (Nat.le_add_right _ _) long, Nat.add_sub_cancel_left]

theorem numberGuarded_eq (header : Header) {offset width : Nat}
    (within : offset + width ≤ 0x100) :
    (header.numberGuarded offset width : Guarded ε Nat) = pure (header.field offset width) := by
  have long : start + offset + width ≤ header.bytes.length := by
    rw [header.length_bytes, start]
    omega
  rw [numberGuarded, fieldGuarded_eq header within, Guarded.pure_bind,
    Guarded.number_slice long (Nat.le_refl _)]
  rfl

theorem ofRangeGuarded_eq {range : Bytes} (long : size ≤ range.length) :
    (ofRangeGuarded range : Guarded ε Header) = pure (Block.fit 0x200 range) := by
  have front : (range.slice 0 (size - 0)).length = size :=
    Bytes.length_slice_of_le (by omega)
  rw [ofRangeGuarded, Guarded.cut_eq (Nat.zero_le _) long, Guarded.pure_bind,
    Guarded.copied_eq front, Guarded.pure_bind, Nat.sub_zero, Bytes.slice_zero]
  congr 1
  exact Block.ext (Bytes.fit_take size range)

-- A shorter range is none to take a header from.
example : (ofRangeGuarded [0x48, 0x45, 0x41, 0x44] : Guarded Error Header) = .stopped := by
  rfl

theorem hasValidMagicGuarded_eq (header : Header) :
    (header.hasValidMagicGuarded : Guarded ε Bool) = pure header.hasValidMagic := by
  rw [hasValidMagicGuarded, numberGuarded_eq header (by decide), Guarded.pure_bind]
  rfl

theorem flagsGuarded_eq (header : Header) :
    (header.flagsGuarded : Guarded ε CardFlags) = pure header.flags := by
  have within : start + 0x0F < header.bytes.length := by
    rw [header.length_bytes]
    decide
  rw [flagsGuarded, Guarded.byte_eq within, Guarded.pure_bind]
  rfl

theorem rootHashGuarded_eq (header : Header) :
    (header.rootHashGuarded : Guarded ε Digest) = pure header.rootHash := by
  have exact : (header.bytes.slice (start + 0x40) 0x20).length = 0x20 := header.rootHash.length_bytes
  rw [rootHashGuarded, fieldGuarded_eq header (by decide), Guarded.pure_bind,
    Guarded.copied_eq exact, Guarded.pure_bind]
  congr 1
  apply Block.ext
  exact Bytes.fit_of_length_eq exact

theorem numberFrom_eq {bytes : Bytes} {offset width : Nat}
    (within : offset + width ≤ bytes.length) :
    (numberFrom bytes offset width : Guarded ε Nat) = pure (bytes.numberAt offset width) := by
  rw [numberFrom, Guarded.cut_eq (by omega) (Nat.le_refl _), Guarded.pure_bind,
    Guarded.number_slice (by omega) (by omega)]

theorem cardInfoGuarded_eq (header : Header) :
    (header.cardInfoGuarded : Guarded ε CardInfo) = pure header.cardInfo := by
  have whole : encryptedStart + 0x70 ≤ header.bytes.length := by
    rw [header.length_bytes]
    decide
  have long : (header.bytes.slice encryptedStart 0x70).length = 0x70 :=
    Bytes.length_slice_of_le whole
  have number (offset width : Nat) (within : offset + width ≤ 0x70) :
      (numberFrom (header.bytes.slice encryptedStart 0x70) offset width : Guarded ε Nat) =
        pure ((header.bytes.slice encryptedStart 0x70).numberAt offset width) :=
    numberFrom_eq (by omega)
  have code : 0x24 < (header.bytes.slice encryptedStart 0x70).length := by omega
  rw [cardInfoGuarded, Guarded.cut_eq (Nat.le_add_right _ _) whole, Guarded.pure_bind,
    Nat.add_sub_cancel_left]
  simp (disch := decide) only [number, Guarded.byte_eq code, Guarded.pure_bind]
  rfl

end Header

theorem SplitImage.ofImageGuarded_eq {image : Storage} (inWords : image.InWords) :
    SplitImage.ofImageGuarded image = .done (SplitImage.ofImage image) := by
  unfold ofImageGuarded ofImage
  split
  · rfl
  · apply Storage.readGuarded_bind inWords
    intro bytes _
    have probed : (Header.hasValidMagicGuarded (Block.fit Header.size bytes) :
        Guarded Error Bool) = pure (Header.hasValidMagic (Block.fit Header.size bytes)) :=
      Header.hasValidMagicGuarded_eq _
    rw [probed, Guarded.pure_bind]
    split
    · apply Guarded.done_bind
      intro keyArea _
      apply Guarded.done_bind
      intro body _
      rfl
    · rfl

namespace Card

open SplitImage (bodyBytes)

theorem readSecondHeaderGuarded_eq (cipher : HeaderCipher) {bytes : Bytes}
    (long : bytes.length = bodyHeaderSize) :
    readSecondHeaderGuarded cipher bytes = pure (readSecondHeader cipher bytes) := by
  have size : bytes.length = 0x800 := long
  have range : (bytes.slice 0x200 (0x400 - 0x200)).length = Header.size :=
    Bytes.length_slice_of_le (by omega)
  have certificate : (bytes.slice 0x400 (0x800 - 0x400)).length = 0x400 :=
    Bytes.length_slice_of_le (by omega)
  rw [readSecondHeaderGuarded, Guarded.cut_eq (by decide) (by omega), Guarded.pure_bind,
    Header.ofRangeGuarded_eq (Nat.le_of_eq range.symm), Guarded.pure_bind]
  simp only
  rw [Guarded.cut_eq (by decide) (by omega), Guarded.pure_bind, Guarded.copied_eq certificate,
    Guarded.pure_bind]
  rfl

theorem secondHeaderGuarded_eq (cipher : HeaderCipher) (header : Header) {bytes : Bytes}
    (long : bytes.length = bodyHeaderSize) :
    secondHeaderGuarded cipher header bytes =
      pure (if header.flags.hasSecondHeader then
        (some (readSecondHeader cipher bytes).1, (readSecondHeader cipher bytes).2)
        else (none, [])) := by
  rw [secondHeaderGuarded, Header.flagsGuarded_eq, Guarded.pure_bind]
  split
  · rw [readSecondHeaderGuarded_eq cipher long, Guarded.pure_bind]
  · rfl

/-- Where the root partition lies in pages of a body, its sums are words. -/
theorem inWords_rootStorage {body : Storage} (inWords : body.InWords) {header : Header}
    (inside : header.rootAddress ≤ body.size) : (rootStorage body header).InWords := by
  refine ⟨⟨inWords, rfl, by decide⟩, ?_⟩
  change header.rootAddress + (body.size - header.rootAddress) ≤ body.size
  omega

theorem mountRootGuarded_eq {body : Storage} (inWords : body.InWords) (header : Header) :
    mountRootGuarded body header = .done (mountRoot body header) := by
  have pages : (body.pagedGuarded pageSize : Guarded Error Storage) =
      pure (.paged body pageSize) := rfl
  have address : (header.numberGuarded 0x30 8 : Guarded Error Nat) = pure header.rootAddress :=
    Header.numberGuarded_eq header (by decide)
  rw [mountRootGuarded, mountRoot, pages, Guarded.pure_bind, address, Guarded.pure_bind]
  cases placed : (Storage.paged body pageSize).tail? header.rootAddress with
  | error error => rfl
  | ok storage =>
      obtain ⟨inside, same⟩ := Storage.tail?_eq_ok_iff.mp placed
      have storageInWords : storage.InWords := by
        rw [same]
        exact inWords_rootStorage inWords inside
      simp only
      rw [Header.rootHashGuarded_eq, Guarded.pure_bind, Header.cardInfoGuarded_eq,
        Guarded.pure_bind, FileSystem.mountGuarded_eq storageInWords]
      apply Guarded.done_bind
      intro mounted _
      cases mounted <;> rfl

theorem inWords_of_mountRoot {body : Storage} (inWords : body.InWords) {header : Header}
    {root : Partition} {warnings : Diagnostics}
    (mounted : (mountRoot body header).result = .ok (root, warnings)) {fileSystem : FileSystem}
    (present : root.fileSystem = some fileSystem) :
    fileSystem.storage.InWords ∧ fileSystem.Contained := by
  obtain ⟨other, otherWarnings, result, outcome⟩ := result_mountRoot body header
  rw [mounted] at result
  cases result
  obtain ⟨inside, place, contained⟩ := outcome.of_mounted present
  rw [place]
  exact ⟨inWords_rootStorage inWords inside, contained⟩

theorem openPartitionGuarded_eq {root : FileSystem} (inWords : root.storage.InWords)
    (contained : root.Contained) {entry : Entry} (member : entry ∈ root.entries) :
    openPartitionGuarded root entry =
      .done ⟨.ok ((openPartition root entry).1, (openPartition root entry).2.1),
        (openPartition root entry).2.2⟩ := by
  have opened : (root.openEntryGuarded entry).attempt =
      (pure (.ok (root.entryStorage entry)) : Guarded Error (Except Error Storage)) := by
    rw [FileSystem.openEntryGuarded_eq inWords contained member, contained.openEntry_eq member]
    rfl
  have mounted := FileSystem.mountGuarded_eq
    (FileSystem.inWords_entryStorage inWords contained member) none none
  rw [openPartitionGuarded, opened, Guarded.pure_bind, openPartition,
    contained.openEntry_eq member]
  simp only
  rw [mounted, Guarded.attempt_done]
  generalize FileSystem.mount (root.entryStorage entry) none none = access
  obtain ⟨result, reads⟩ := access
  cases result with
  | error error => exact Guarded.done_bind_last rfl rfl
  | ok fileSystem => exact Guarded.done_bind_last rfl rfl

/-- What was gathered, as an operation that came to an end. -/
def Gathered.guarded (gathered : Gathered) : Guarded Error (Partitions × Diagnostics) :=
  .done ⟨.ok (gathered.partitions, gathered.diagnostics), gathered.reads⟩

theorem gatherGuarded_file {root : FileSystem} (inWords : root.storage.InWords)
    (contained : root.Contained) {entry : Entry} (member : entry ∈ root.entries)
    (path : String) (gathered : Gathered) :
    gatherGuarded root gathered.guarded (.file path entry) =
      ((gather root gathered (.file path entry)).1.guarded,
        (gather root gathered (.file path entry)).2) := by
  simp only [gatherGuarded, gather]
  cases PartitionKind.ofName? entry.name with
  | none => exact congrArg (·, Walk.next) (Guarded.done_bind_last rfl rfl)
  | some kind =>
      simp only
      rw [openPartitionGuarded_eq inWords contained member]
      change (Guarded.done ⟨_, gathered.reads ++ ((openPartition root entry).2.2 ++ [])⟩, _) = _
      rw [List.append_nil]
      rfl

theorem walkFiles_gatherGuarded {root : FileSystem} (inWords : root.storage.InWords)
    (contained : root.Contained) {entries : List Entry}
    (members : ∀ entry ∈ entries, entry ∈ root.entries) (gathered : Gathered) :
    FileSystem.walkFiles (gatherGuarded root) entries gathered.guarded =
      ((FileSystem.walkFiles (gather root) entries gathered).1.guarded,
        (FileSystem.walkFiles (gather root) entries gathered).2) := by
  induction entries generalizing gathered with
  | nil => rfl
  | cons entry rest induction =>
      rw [List.forall_mem_cons] at members
      rw [FileSystem.walkFiles, FileSystem.walkFiles,
        gatherGuarded_file inWords contained members.1]
      cases gather root gathered (.file FileSystem.rootPath entry) with
      | mk next walk =>
        cases walk with
        | stop => rfl
        | next => exact induction members.2 next

theorem gatherPartitionsGuarded_eq {root : Partition}
    (mounted : ∀ fileSystem, root.fileSystem = some fileSystem →
      fileSystem.storage.InWords ∧ fileSystem.Contained) :
    gatherPartitionsGuarded root = .done (gatherPartitions root) := by
  rw [gatherPartitionsGuarded, gatherPartitions]
  cases present : root.fileSystem with
  | none => rfl
  | some fileSystem =>
      obtain ⟨inWords, contained⟩ := mounted fileSystem present
      exact congrArg Prod.fst
        (walkFiles_gatherGuarded inWords contained (fun _ member => member) ⟨.absent, [], []⟩)

theorem readInitialDataGuarded_eq {keyArea : Option Storage}
    (inWords : ∀ storage ∈ keyArea, storage.InWords) :
    readInitialDataGuarded keyArea = .done (readInitialData keyArea) := by
  cases keyArea with
  | none => rfl
  | some storage =>
      apply Storage.readGuarded_bind (inWords storage rfl)
      intro bytes _
      rfl

theorem inWords_of_split {image : Storage} (inWords : image.InWords) {parts : SplitImage}
    (split : (SplitImage.ofImage image).result = .ok parts) :
    parts.body.InWords ∧ ∀ storage ∈ parts.keyArea, storage.InWords := by
  rcases SplitImage.ofImage_cases split with rfl | ⟨long, rfl⟩
  · exact ⟨inWords, fun _ absent => by cases absent⟩
  · constructor
    · exact ⟨inWords, by omega⟩
    · intro storage present
      cases present
      exact ⟨inWords, by omega⟩

theorem ofImageGuarded_eq {image : Storage} (inWords : image.InWords) (cipher : HeaderCipher) :
    ofImageGuarded image cipher = .done (ofImage image cipher) := by
  unfold ofImageGuarded ofImage
  rw [SplitImage.ofImageGuarded_eq inWords]
  apply Guarded.done_bind
  intro parts split
  obtain ⟨body, keyArea⟩ := inWords_of_split inWords split
  rw [readInitialDataGuarded_eq keyArea]
  apply Guarded.done_bind
  intro initialData _
  apply Storage.readGuarded_bind body
  intro bytes length
  have long : bytes.length = 0x800 := length
  have front : (bytes.slice 0x000 (0x200 - 0x000)).length = 0x200 :=
    Bytes.length_slice_of_le (by omega)
  have header : (Header.ofRangeGuarded (bytes.slice 0x000 (0x200 - 0x000)) :
      Guarded Error Header) = pure (Block.fit 0x200 bytes) := by
    rw [Header.ofRangeGuarded_eq (Nat.le_of_eq front.symm)]
    exact congrArg pure (Block.ext (Bytes.fit_take 0x200 bytes))
  rw [Guarded.cut_eq (by decide) (by omega), Guarded.pure_bind, header, Guarded.pure_bind]
  simp only
  rw [secondHeaderGuarded_eq cipher _ length, Guarded.pure_bind]
  apply Storage.readGuarded_bind body
  intro certificate _
  rw [mountRootGuarded_eq body]
  apply Guarded.done_bind
  rintro ⟨root, rootWarnings⟩ mounted
  simp only
  rw [gatherPartitionsGuarded_eq fun _ => inWords_of_mountRoot body mounted]
  exact Guarded.done_bind fun _ _ => rfl

/-- A card in memory opens exactly if its body has room for the fixed structures,
and otherwise the error is that of a read at its end.  The contents only decide
whether there is a key area.  Whatever the tables say, the sums that place the
files of mounted partitions do not exceed the length of the image, and as long as
a buffer can hold the image, nothing that is computed stops the program. -/
theorem ofImage_outcome (image : Bytes) (cipher : HeaderCipher) :
    ((∃ card, (ofImage (.memory image) cipher).result = .ok card) ↔
        0x7200 ≤ (bodyBytes image).length) ∧
      (∀ error, (ofImage (.memory image) cipher).result = .error error → EndsEarly error) ∧
      (image.length ≤ Guarded.roomLimit →
        ofImageGuarded (.memory image) cipher = .done (ofImage (.memory image) cipher)) ∧
      (∀ card, (ofImage (.memory image) cipher).result = .ok card →
        StaysWithin card.root image.length ∧
          ∀ kind, StaysWithin (card.partition kind) image.length) ∧
      ∀ (other : Bytes) (otherCipher : HeaderCipher), other.length = image.length →
        (SplitImage.HasKeyArea other ↔ SplitImage.HasKeyArea image) →
        ((∃ card, (ofImage (.memory other) otherCipher).result = .ok card) ↔
          ∃ card, (ofImage (.memory image) cipher).result = .ok card) := by
  have shows := Storage.shows_memory image
  refine ⟨opens_iff shows cipher, ?_, ?_, ?_, ?_⟩
  · intro error failed
    rcases Nat.lt_or_ge (bodyBytes image).length 0x7200 with short | long
    · obtain ⟨early, result, endsEarly⟩ := result_ofImage_of_short shows cipher short
      rw [failed] at result
      cases result
      exact endsEarly
    · obtain ⟨card, opened⟩ := result_ofImage shows cipher long
      rw [failed] at opened
      cases opened
  · intro fits
    have inWords : (Storage.memory image).InWords := fits
    exact ofImageGuarded_eq inWords cipher
  · intro card opened
    have assembled := assembled_of_ofImage opened
    exact ⟨assembled.root_staysWithin, assembled.partition_staysWithin⟩
  · intro other otherCipher lengths keyAreas
    have bodies : (bodyBytes other).length = (bodyBytes image).length := by
      by_cases hasKeyArea : SplitImage.HasKeyArea image
      · rw [bodyBytes, bodyBytes, if_pos hasKeyArea, if_pos (keyAreas.mpr hasKeyArea),
          List.length_drop, List.length_drop, lengths]
      · rw [bodyBytes, bodyBytes, if_neg hasKeyArea, if_neg (mt keyAreas.mp hasKeyArea), lengths]
    rw [opens_iff shows, opens_iff (Storage.shows_memory other), bodies]

/-- An image in which every number is the greatest of its width. -/
def fullImage : Bytes :=
  List.replicate 0x7200 0xFF

theorem bodyBytes_fullImage : bodyBytes fullImage = fullImage := by
  have unmarked : fullImage.slice 0x1100 4 = List.replicate 4 0xFF := by
    rw [fullImage, Bytes.slice, List.drop_replicate, List.take_replicate]
    rfl
  apply if_neg
  rintro ⟨_, marked⟩
  rw [unmarked] at marked
  exact absurd marked (by decide)

theorem ofImage_outcome_fullImage :
    (∃ card, (ofImage (.memory fullImage) (.decryption none)).result = .ok card) ∧
      fullImage.length ≤ Guarded.roomLimit ∧
      ofImageGuarded (.memory fullImage) (.decryption none) =
        .done (ofImage (.memory fullImage) (.decryption none)) := by
  have length : fullImage.length = 0x7200 := List.length_replicate
  have fits : fullImage.length ≤ Guarded.roomLimit := by
    rw [length]
    decide
  have body : (bodyBytes fullImage).length = 0x7200 := by
    rw [bodyBytes_fullImage, length]
  obtain ⟨opens, _, goesOn, _⟩ := ofImage_outcome fullImage (.decryption none)
  exact ⟨opens.mpr (Nat.le_of_eq body.symm), fits, goesOn fits⟩

end Card

end Gamecard
