import Gamecard.Proofs.Card.Addressing
import Gamecard.Proofs.FileSystem.Behaviour

/-!
# Partitions cut out of an image

A partition of an opened card does not depend on what stands around it.  The
bytes of its range, cut out of the image and held in memory, mount exactly if the
partition is mounted, and then no operation tells the two file systems apart.
-/

namespace Gamecard

open FileSystem (mount BehavesLike)

/-- The partition is what comes of mounting the `size` bytes of an image from `start`
on, and the same comes of mounting a copy of them. -/
inductive Partition.CutOut (image : Bytes) (expected : Option Digest) (salt : Option UInt8)
    (start size : Nat) : Partition → Prop where
  | unmounted {storage : Storage} {error : Error} : storage.ShowsRange image start size →
      (mount storage expected salt).result = .error error →
      (mount (.memory (image.slice start size)) expected salt).result = .error error →
      CutOut image expected salt start size ⟨some storage, none⟩
  | mounted {storage : Storage} {fileSystem copy : FileSystem} :
      storage.ShowsRange image start size →
      (mount storage expected salt).result = .ok fileSystem →
      (mount (.memory (image.slice start size)) expected salt).result = .ok copy →
      fileSystem.BehavesLike copy →
      CutOut image expected salt start size ⟨some storage, some fileSystem⟩

theorem Storage.ShowsRange.cutOut {storage : Storage} {image : Bytes} {start size : Nat}
    (range : storage.ShowsRange image start size) (expected : Option Digest)
    (salt : Option UInt8) :
    Partition.CutOut image expected salt start size
      ⟨some storage, (mount storage expected salt).result.toOption⟩ := by
  have alike := FileSystem.mount_alike range.shows
    (Storage.shows_memory (image.slice start size)) expected salt
  rcases alike.error_or_ok with ⟨error, here, copied⟩ | ⟨fileSystem, copy, here, copied, behaves⟩
  · rw [here]
    exact .unmounted range here copied
  · rw [here]
    exact .mounted range here copied behaves

theorem Partition.CutOut.exists_copy {image : Bytes} {expected : Option Digest}
    {salt : Option UInt8} {start size : Nat} {partition : Partition}
    (cutOut : partition.CutOut image expected salt start size) {fileSystem : FileSystem}
    (mounted : partition.fileSystem = some fileSystem) :
    ∃ copy, (mount (.memory (image.slice start size)) expected salt).result = .ok copy ∧
      fileSystem.BehavesLike copy := by
  cases cutOut with
  | unmounted _ _ _ => cases mounted
  | mounted _ _ copied behaves =>
      cases mounted
      exact ⟨_, copied, behaves⟩

namespace Card

/-- The root partition and the partitions in it are those of ranges of the image, the
root partition with the digest and the salt that the header asks for. -/
structure CutOut (card : Card) (image : Bytes) : Prop where
  root : (image.length < card.rootStart ∧ card.root = .absent) ∨
    card.rootStart ≤ image.length ∧
      card.root.CutOut image (some card.decryptedHeader.rootHash)
        card.decryptedHeader.cardInfo.salt? card.rootStart (image.length - card.rootStart)
  partition : ∀ kind, card.partition kind = .absent ∨
    ∃ root entry, card.root.fileSystem = some root ∧
      FileSystem.lastNamed? root.entries kind.name = some entry ∧
      (card.partition kind).CutOut image none none
        (card.rootStart + root.dataOffset + entry.offset) entry.size

theorem RootOutcome.root_cases {body : Storage} {header : Header} {root : Partition}
    {warnings : Diagnostics} (outcome : RootOutcome body header root warnings) :
    (body.size < header.rootAddress ∧ root = .absent) ∨
      header.rootAddress ≤ body.size ∧
        root = ⟨some (rootStorage body header), (mount (rootStorage body header)
          (some header.rootHash) header.cardInfo.salt?).result.toOption⟩ := by
  cases outcome with
  | absent beyond => exact .inl ⟨beyond, rfl⟩
  | unmounted inside failed =>
      rw [failed]
      exact .inr ⟨inside, rfl⟩
  | mounted inside read =>
      rw [read]
      exact .inr ⟨inside, rfl⟩

theorem Assembled.root_cutOut {storage : Storage} {cipher : HeaderCipher} {card : Card}
    (assembled : Assembled storage cipher card) {image : Bytes} (shows : storage.Shows image) :
    (image.length < card.rootStart ∧ card.root = .absent) ∨
      card.rootStart ≤ image.length ∧
        card.root.CutOut image (some card.decryptedHeader.rootHash)
          card.decryptedHeader.cardInfo.salt? card.rootStart
          (image.length - card.rootStart) := by
  obtain ⟨_, _, outcome, _, _⟩ := assembled.root_eq
  have body := SplitImage.showsRange_body shows assembled.parts_eq
  have bodyInside := body.inside
  have start : card.rootStart = card.parts.bodyStart + card.decryptedHeader.rootAddress := rfl
  rcases outcome.root_cases with ⟨beyond, absent⟩ | ⟨inside, same⟩
  · rw [body.size_eq] at beyond
    exact .inl ⟨by omega, absent⟩
  · rw [body.size_eq] at inside
    have range := showsRange_rootStorage body inside
    rw [Nat.sub_sub] at range
    rw [same]
    exact .inr ⟨by omega, range.cutOut _ _⟩

theorem Assembled.cutOut {storage : Storage} {cipher : HeaderCipher} {card : Card}
    (assembled : Assembled storage cipher card) {image : Bytes} (shows : storage.Shows image) :
    card.CutOut image := by
  refine ⟨assembled.root_cutOut shows, ?_⟩
  intro kind
  rcases assembled.partition_cases kind with absent | ⟨root, entry, mounted, last, same⟩
  · exact .inl absent
  · obtain ⟨_, contained⟩ := assembled.root_contained mounted
    have range := contained.showsRange_entry (FileSystem.mem_of_lastNamed? last)
      (assembled.showsRange_root shows mounted)
    rw [same]
    exact .inr ⟨root, entry, mounted, last, range.cutOut none none⟩

/-- Mounting a tower of layers over memory is mounting a copy of the bytes that it
shows: it fails alike, or no operation tells the file systems apart.  The same goes
for the partitions of a card that is opened from such a tower. -/
theorem mount_seesOnlyBytes {bytes : Bytes} {layers : List Layer} {top : Storage}
    (built : (Storage.memory bytes).tower? layers = some top) :
    Storage.towerOffset layers + top.size ≤ bytes.length ∧
      (∀ expected salt, Alike BehavesLike (mount top expected salt).result
        (mount (.memory (bytes.slice (Storage.towerOffset layers) top.size)) expected
          salt).result) ∧
      ∀ cipher card, (ofImage top cipher).result = .ok card →
        card.CutOut (bytes.slice (Storage.towerOffset layers) top.size) := by
  obtain ⟨size, fits, shows⟩ := (Storage.shows_memory bytes).tower built
  have sizeEq : top.size = size := shows.size_eq.trans (Bytes.length_slice_of_le fits)
  rw [sizeEq]
  refine ⟨fits, ?_, ?_⟩
  · exact FileSystem.mount_alike shows (Storage.shows_memory _)
  · intro cipher card opened
    exact (assembled_of_ofImage opened).cutOut shows

/-- Files behind an odd byte, read in pages, and files in a partition of a card. -/
theorem mount_seesOnlyBytes_nested :
    (∃ top fileSystem copy, (Storage.memory (7 :: (Image.build innerFiles).data)).tower?
        [.tail 1, .paged 2] = some top ∧
      (mount top none none).result = .ok fileSystem ∧
      (mount (.memory (Image.build innerFiles).data) none none).result = .ok copy ∧
      fileSystem.BehavesLike copy) ∧
    ∃ card fileSystem copy,
      (ofImage (.memory (imageOfFiles nestedFiles)) (cipherOfFiles nestedFiles)).result =
          .ok card ∧
        (card.partition .normal).fileSystem = some fileSystem ∧
        (mount (.memory (Image.build innerFiles).data) none none).result = .ok copy ∧
        fileSystem.BehavesLike copy := by
  constructor
  · obtain ⟨top, built, shows⟩ :=
      Storage.exists_tower_behind 7 (Image.build innerFiles).data
    have mounts := @Image.result_mount_built innerFiles (by decide) (by decide) (by decide)
      (by decide) _ shows none
    obtain ⟨_, alike, _⟩ := mount_seesOnlyBytes built
    have place : Storage.towerOffset [.tail 1, .paged 2] = 1 := rfl
    have behind : Bytes.slice 1 top.size (7 :: (Image.build innerFiles).data) =
        (Image.build innerFiles).data := by
      rw [shows.size_eq]
      exact Bytes.slice_rest 1 (7 :: (Image.build innerFiles).data)
    have same := alike none none
    rw [place, behind, mounts] at same
    rcases same.error_or_ok with ⟨error, impossible, _⟩ | ⟨_, copy, here, copied, behaves⟩
    · cases impossible
    · cases here
      exact ⟨top, _, copy, built, mounts, copied, behaves⟩
  · obtain ⟨card, root, fileSystem, opened, rootPlace, rootMounted, entries, rootBehind, mounted,
      _, _⟩ := opens_nestedFiles
    obtain ⟨_, _, partitions⟩ := @mount_seesOnlyBytes (imageOfFiles nestedFiles) [] _ rfl
    have place : Storage.towerOffset [] = 0 := rfl
    have whole := (partitions _ card opened).partition .normal
    rw [place, Storage.size, Bytes.slice_zero_length] at whole
    rcases whole with absent | ⟨other, entry, sameRoot, last, cutOut⟩
    · rw [absent] at mounted
      cases mounted
    · rw [rootMounted] at sameRoot
      cases sameRoot
      rw [entries, PartitionKind.name, lastNamed?_nestedFiles] at last
      cases last
      obtain ⟨copy, copied, behaves⟩ := cutOut.exists_copy mounted
      have all : Bytes.slice 0 (Image.build innerFiles).data.length
          (Image.build innerFiles).data = (Image.build innerFiles).data :=
        Bytes.slice_zero_length _
      rw [rootPlace, rootBehind, slice_nestedFiles, Image.entry, all] at copied
      exact ⟨card, fileSystem, copy, opened, mounted, copied, behaves⟩

end Card

end Gamecard
