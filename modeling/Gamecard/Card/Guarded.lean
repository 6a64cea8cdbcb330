import Gamecard.Card
import Gamecard.FileSystem.Guarded

/-!
# Opening a card, guarded

The same steps as in opening a card, with every sum, range and copy that they take.  A
header cipher is given from outside and comes to an end, whatever it does.
-/

namespace Gamecard

namespace Header

open Guarded (add cut copied number byte)

/-- The bytes of a field of the header proper. -/
def fieldGuarded {ε : Type} (header : Header) (offset length : Nat) : Guarded ε Bytes := do
  let first ← add start offset
  cut header.bytes first (← add first length)

def numberGuarded {ε : Type} (header : Header) (offset width : Nat) : Guarded ε Nat := do
  number width (← header.fieldGuarded offset width)

/-- The header in the first bytes of a range. -/
def ofRangeGuarded {ε : Type} (range : Bytes) : Guarded ε Header := do
  let bytes ← copied size (← cut range 0 size)
  pure (Block.fit size bytes)

def hasValidMagicGuarded {ε : Type} (header : Header) : Guarded ε Bool := do
  pure ((← header.numberGuarded 0x00 4) == validMagic)

def flagsGuarded {ε : Type} (header : Header) : Guarded ε CardFlags := do
  pure ⟨← byte header.bytes (start + 0x0F)⟩

def rootHashGuarded {ε : Type} (header : Header) : Guarded ε Digest := do
  let bytes ← copied 0x20 (← header.fieldGuarded 0x40 0x20)
  pure (Block.fit 0x20 bytes)

/-- The number from a place of a buffer on. -/
def numberFrom {ε : Type} (bytes : Bytes) (offset width : Nat) : Guarded ε Nat := do
  number width (← cut bytes offset bytes.length)

def cardInfoGuarded {ε : Type} (header : Header) : Guarded ε CardInfo := do
  let data ← cut header.bytes encryptedStart (encryptedStart + 0x70)
  let firmwareVersion ← numberFrom data 0x00 8
  let accessControl ← numberFrom data 0x08 4
  let readWaitTime ← numberFrom data 0x0C 4
  let readWaitTime2 ← numberFrom data 0x10 4
  let writeWaitTime ← numberFrom data 0x14 4
  let writeWaitTime2 ← numberFrom data 0x18 4
  let firmwareMode ← numberFrom data 0x1C 4
  let updateVersion ← numberFrom data 0x20 4
  let compatibilityCode ← byte data 0x24
  let updateHash ← numberFrom data 0x28 8
  let updateId ← numberFrom data 0x30 8
  pure { firmwareVersion, accessControl, readWaitTime, readWaitTime2, writeWaitTime,
         writeWaitTime2, firmwareMode, updateVersion, compatibilityCode, updateHash, updateId }

end Header

def SplitImage.ofImageGuarded (image : Storage) : Guarded Error SplitImage := do
  if image.size < keyAreaSize then pure ⟨none, image⟩
  else
    let bytes ← (image.readGuarded keyAreaSize Header.size).mapError .storage
    if ← Header.hasValidMagicGuarded (Block.fit Header.size bytes) then
      let keyArea ← .ofExcept (image.window? 0 keyAreaSize)
      let body ← .ofExcept (image.tail? keyAreaSize)
      pure ⟨some keyArea, body⟩
    else pure ⟨none, image⟩

namespace Card

open Guarded (cut copied)

def readSecondHeaderGuarded (cipher : HeaderCipher) (bytes : Bytes) :
    Guarded Error (SecondHeader × Diagnostics) := do
  let header ← Header.ofRangeGuarded (← cut bytes 0x200 0x400)
  let (decrypted, warnings) := decryptHeader cipher header
  let certificate ← copied 0x400 (← cut bytes 0x400 0x800)
  pure (⟨header, decrypted, Block.fit 0x400 certificate⟩, warnings)

/-- The second header, if the flags of the first one tell of it. -/
def secondHeaderGuarded (cipher : HeaderCipher) (header : Header) (bytes : Bytes) :
    Guarded Error (Option SecondHeader × Diagnostics) := do
  if (← header.flagsGuarded).hasSecondHeader then
    let (second, warnings) ← readSecondHeaderGuarded cipher bytes
    pure (some second, warnings)
  else pure (none, [])

def mountRootGuarded (body : Storage) (header : Header) :
    Guarded Error (Partition × Diagnostics) := do
  let aligned ← body.pagedGuarded pageSize
  match aligned.tail? (← header.numberGuarded 0x30 8) with
  | .error error => pure (.absent, [.rootPartitionMount error])
  | .ok storage =>
    let expected ← header.rootHashGuarded
    let info ← header.cardInfoGuarded
    let mounted ← (FileSystem.mountGuarded storage (some expected) info.salt?).attempt
    match mounted with
    | .ok fileSystem => pure (⟨some storage, some fileSystem⟩, [])
    | .error error => pure (⟨some storage, none⟩, [.rootPartitionMount error])

def openPartitionGuarded (root : FileSystem) (entry : Entry) :
    Guarded Error (Partition × Diagnostics) := do
  match ← (root.openEntryGuarded entry).attempt with
  | .error error => pure (.absent, [.partitionOpen entry.name error])
  | .ok storage =>
    match ← (FileSystem.mountGuarded storage none none).attempt with
    | .ok fileSystem => pure (⟨some storage, some fileSystem⟩, [])
    | .error error => pure (⟨some storage, none⟩, [.partitionMount entry.name error])

/-- Goes on gathering from what was gathered before. -/
def gatherGuarded (root : FileSystem) : Visitor (Guarded Error (Partitions × Diagnostics)) :=
  fun gathered visit =>
    match visit with
    | .file _ entry =>
      match PartitionKind.ofName? entry.name with
      | none =>
        (do
          let (partitions, warnings) ← gathered
          pure (partitions, warnings ++ [.unrecognizedPartition entry.name]), .next)
      | some kind =>
        (do
          let (partitions, warnings) ← gathered
          let (partition, more) ← openPartitionGuarded root entry
          pure (partitions.set kind partition, warnings ++ more), .next)
    | _ => (gathered, .next)

def gatherPartitionsGuarded (root : Partition) :
    Guarded Error (Partitions × Diagnostics) :=
  match root.fileSystem with
  | none => pure (.absent, [])
  | some fileSystem => (fileSystem.walk (gatherGuarded fileSystem) (pure (.absent, []))).1

def readInitialDataGuarded (keyArea : Option Storage) : Guarded Error (Option InitialData) :=
  match keyArea with
  | none => pure none
  | some keyArea => do
    let bytes ← (keyArea.readGuarded 0 0x200).mapError .storage
    pure (some (Block.fit 0x200 bytes))

def ofImageGuarded (image : Storage) (cipher : HeaderCipher) : Guarded Error Card := do
  let parts ← SplitImage.ofImageGuarded image
  let initialData ← readInitialDataGuarded parts.keyArea
  let bytes ← (parts.body.readGuarded 0 bodyHeaderSize).mapError .storage
  let header ← Header.ofRangeGuarded (← cut bytes 0x000 0x200)
  let (decryptedHeader, headerWarnings) := decryptHeader cipher header
  let (secondHeader, secondWarnings) ← secondHeaderGuarded cipher header bytes
  let certificate ← (parts.body.readGuarded certificateOffset 0x200).mapError .storage
  let (root, rootWarnings) ← mountRootGuarded parts.body decryptedHeader
  let (partitions, partitionWarnings) ← gatherPartitionsGuarded root
  pure
    { image, parts, initialData, header, decryptedHeader, secondHeader
      certificate := Block.fit 0x200 certificate
      root, partitions
      diagnostics := headerWarnings ++ secondWarnings ++ rootWarnings ++ partitionWarnings }

end Card

end Gamecard
