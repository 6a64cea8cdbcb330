import Gamecard.Proofs.Card.Building
import Gamecard.Proofs.FileSystem.Grammar

/-!
# Integrity of the root partition

The root partition is mounted only with the table that the decrypted header
vouches for: the digest in the header is that of the whole table and, unless the
card is a normal one, of the code of its kind behind it.
-/

namespace Gamecard

theorem CardInfo.toList_salt? (info : CardInfo) :
    info.salt?.toList =
      if info.compatibilityCode = 0 then [] else [info.compatibilityCode] := by
  unfold salt? compatibility Compatibility.ofCode
  by_cases normal : info.compatibilityCode = 0
  · simp only [if_pos normal, Option.toList_none]
  · by_cases terra : info.compatibilityCode = 1
    · simp only [if_neg normal, if_pos terra, Option.toList_some]
    · simp only [if_neg normal, if_neg terra, Option.toList_some]

namespace FileSystem

theorem exists_result_mount_iff {storage : Storage} {bytes : Bytes}
    (shows : storage.Shows bytes) (expected : Option Digest) (salt : Option UInt8) :
    (∃ fileSystem, (mount storage expected salt).result = .ok fileSystem) ↔
      ∃ table, readTable bytes expected salt = .ok table := by
  rw [result_mount shows]
  cases readTable bytes expected salt with
  | error error =>
      constructor
      · rintro ⟨fileSystem, impossible⟩
        cases impossible
      · rintro ⟨table, impossible⟩
        cases impossible
  | ok table => exact ⟨fun _ => ⟨table, rfl⟩, fun _ => ⟨_, rfl⟩⟩

/-- With an expected digest, a storage mounts exactly if its table is well-formed and
has it. -/
theorem mounts_expected_iff {storage : Storage} {bytes : Bytes} (shows : storage.Shows bytes)
    (expected : Digest) (salt : Option UInt8) :
    (∃ fileSystem, (mount storage (some expected) salt).result = .ok fileSystem) ↔
      WellFormed bytes ∧ tableHash (bytes.take (tableSize bytes)) salt = expected := by
  rw [exists_result_mount_iff shows, exists_readTable_expected_iff, exists_readTable_iff]

end FileSystem

namespace Card

open SplitImage (bodyBytes)

theorem RootOutcome.isSome_storage_iff {body : Storage} {header : Header} {root : Partition}
    {warnings : Diagnostics} (outcome : RootOutcome body header root warnings) :
    root.storage.isSome ↔ header.rootAddress ≤ body.size := by
  cases outcome with
  | absent beyond =>
      constructor
      · intro impossible
        cases impossible
      · intro inside
        exact absurd inside (Nat.not_le.mpr beyond)
  | unmounted inside _ => exact iff_of_true rfl inside
  | mounted inside _ => exact iff_of_true rfl inside

theorem RootOutcome.isSome_fileSystem_iff {body : Storage} {header : Header}
    {root : Partition} {warnings : Diagnostics}
    (outcome : RootOutcome body header root warnings) :
    root.fileSystem.isSome ↔ header.rootAddress ≤ body.size ∧
      ∃ fileSystem, (FileSystem.mount (rootStorage body header) (some header.rootHash)
        header.cardInfo.salt?).result = .ok fileSystem := by
  constructor
  · intro present
    obtain ⟨fileSystem, mounted⟩ := Option.isSome_iff_exists.mp present
    cases outcome with
    | absent _ => cases mounted
    | unmounted _ _ => cases mounted
    | mounted inside read => exact ⟨inside, _, read⟩
  · rintro ⟨inside, fileSystem, mounts⟩
    rw [outcome.fileSystem_eq inside mounts]
    rfl

/-- The digest of the table at the start of these bytes, as a header of this kind of
card vouches for it. -/
def rootDigest (header : Header) (bytes : Bytes) : Digest :=
  let code := header.cardInfo.compatibilityCode
  Sha256.digest (bytes.take (FileSystem.tableSize bytes) ++ if code = 0 then [] else [code])

theorem tableHash_eq_rootDigest (header : Header) (bytes : Bytes) :
    FileSystem.tableHash (bytes.take (FileSystem.tableSize bytes)) header.cardInfo.salt? =
      rootDigest header bytes := by
  rw [FileSystem.tableHash, CardInfo.toList_salt?, rootDigest]

/-- The root partition of an opened card is present exactly if its address lies in the
body.  It is mounted exactly if a well-formed table stands there and has the digest
that the header tells. -/
theorem root_mounted_iff {storage : Storage} {image : Bytes} (shows : storage.Shows image)
    {cipher : HeaderCipher} {card : Card}
    (opened : (ofImage storage cipher).result = .ok card) :
    (card.root.storage.isSome ↔
        card.decryptedHeader.rootAddress ≤ (bodyBytes image).length) ∧
      (card.root.fileSystem.isSome ↔
        card.decryptedHeader.rootAddress ≤ (bodyBytes image).length ∧
          FileSystem.WellFormed ((bodyBytes image).drop card.decryptedHeader.rootAddress) ∧
          rootDigest card.decryptedHeader
              ((bodyBytes image).drop card.decryptedHeader.rootAddress) =
            card.decryptedHeader.rootHash) := by
  have assembled := assembled_of_ofImage opened
  have body := (SplitImage.shows_of_ofImage shows assembled.parts_eq).body
  obtain ⟨_, _, outcome, _, _⟩ := assembled.root_eq
  rw [outcome.isSome_storage_iff, outcome.isSome_fileSystem_iff, body.size_eq]
  refine ⟨Iff.rfl, and_congr_right ?_⟩
  intro inside
  rw [FileSystem.mounts_expected_iff (shows_rootStorage body inside), tableHash_eq_rootDigest]

/-- A card whose root partition has one file without contents. -/
theorem root_mounted_iff_singleFile :
    ∃ card,
      (ofImage (.memory (imageOfFiles [("a", [])])) (cipherOfFiles [("a", [])])).result =
          .ok card ∧
        card.root.storage.isSome ∧
        FileSystem.WellFormed
          ((bodyBytes (imageOfFiles [("a", [])])).drop card.decryptedHeader.rootAddress) ∧
        rootDigest card.decryptedHeader
            ((bodyBytes (imageOfFiles [("a", [])])).drop card.decryptedHeader.rootAddress) =
          card.decryptedHeader.rootHash := by
  obtain ⟨card, root, opened, mounted, _⟩ :=
    @opens_imageOfFiles [("a", [])] (by decide) (by decide) (by decide) (by decide)
  have present : card.root.fileSystem.isSome := by
    rw [mounted]
    rfl
  obtain ⟨storage, fileSystem⟩ := root_mounted_iff (Storage.shows_memory _) opened
  obtain ⟨inside, wellFormed, digest⟩ := fileSystem.mp present
  exact ⟨card, opened, storage.mpr inside, wellFormed, digest⟩

end Card

end Gamecard
