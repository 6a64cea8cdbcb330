import Gamecard.Card.HeaderCipher
import Gamecard.Card.InitialData
import Gamecard.Card.KeyArea
import Gamecard.FileSystem.Walk
import Gamecard.Warning

/-!
# Cards

Opening a card reads its fixed structures and then mounts what it can.  Only a
structure that cannot be read makes it fail; a header that stays encrypted or
a partition that does not mount becomes a warning.  The last entry of the root
partition with the name of a partition is the one that counts, even if an
earlier one of that name mounted and it does not.
-/

namespace Gamecard

/-- A part of the card that should hold a file system. -/
structure Partition where
  storage : Option Storage
  fileSystem : Option FileSystem
deriving DecidableEq

namespace Partition

def absent : Partition := ⟨none, none⟩

def describe (partition : Partition) : String :=
  let optional {α : Type} (describe : α → String) : Option α → String
    | none => "None"
    | some value => "Some(" ++ describe value ++ ")"
  "Partition \x7b storage: " ++ optional Storage.describe partition.storage ++
    ", fs: " ++ optional FileSystem.describe partition.fileSystem ++ " \x7d"

def toJson (partition : Partition) (name : String) : Json :=
  .object [("name", .string name),
    ("size", .ofOption (fun storage => .ofNat storage.size) partition.storage),
    ("mounted", .bool partition.fileSystem.isSome),
    ("files", .array ((partition.fileSystem.elim [] FileSystem.entries).map Entry.toJson))]

end Partition

structure Partitions where
  update : Partition
  logo : Partition
  normal : Partition
  secure : Partition
deriving DecidableEq

namespace Partitions

def absent : Partitions := ⟨.absent, .absent, .absent, .absent⟩

def get (partitions : Partitions) : PartitionKind → Partition
  | .update => partitions.update
  | .logo => partitions.logo
  | .normal => partitions.normal
  | .secure => partitions.secure

def set (partitions : Partitions) (kind : PartitionKind) (partition : Partition) :
    Partitions :=
  match kind with
  | .update => { partitions with update := partition }
  | .logo => { partitions with logo := partition }
  | .normal => { partitions with normal := partition }
  | .secure => { partitions with secure := partition }

@[simp] theorem get_set_self (partitions : Partitions) (kind : PartitionKind)
    (partition : Partition) : (partitions.set kind partition).get kind = partition := by
  cases kind <;> rfl

theorem get_set_of_ne (partitions : Partitions) {kind other : PartitionKind}
    (partition : Partition) (apart : other ≠ kind) :
    (partitions.set kind partition).get other = partitions.get other := by
  cases kind <;> cases other <;> first | rfl | exact absurd rfl apart

end Partitions

structure SecondHeader where
  header : Header
  decrypted : Header
  certificate : Block 0x400
deriving DecidableEq

structure Card where
  image : Storage
  parts : SplitImage
  initialData : Option InitialData
  header : Header
  /-- The header decrypted, or as it is stored if that failed. -/
  decryptedHeader : Header
  /-- What follows the header, if its flags say so. -/
  secondHeader : Option SecondHeader
  /-- The certificate at a fixed place of the body. -/
  certificate : Block 0x200
  root : Partition
  partitions : Partitions
  diagnostics : Diagnostics
deriving DecidableEq

namespace Card

def bodyHeaderSize : Nat := 0x800

def certificateOffset : Nat := 0x7000

def pageSize : Nat := 0x200

/-- A header decrypted, or unchanged together with a warning. -/
def decryptHeader (cipher : HeaderCipher) (header : Header) : Header × Diagnostics :=
  match cipher header with
  | (decrypted, .ok ()) => (decrypted, [])
  | (_, .error error) => (header, [.headerNotDecrypted error])

def readSecondHeader (cipher : HeaderCipher) (bytes : Bytes) :
    SecondHeader × Diagnostics :=
  let header : Header := Block.fit 0x200 (bytes.slice 0x200 0x200)
  let (decrypted, warnings) := decryptHeader cipher header
  (⟨header, decrypted, Block.fit 0x400 (bytes.slice 0x400 0x400)⟩, warnings)

def mountRoot (body : Storage) (header : Header) :
    Access Error (Partition × Diagnostics) := do
  match (Storage.paged body pageSize).tail? header.rootAddress with
  | .error error => pure (.absent, [.rootPartitionMount error])
  | .ok storage =>
    let mounted ← (FileSystem.mount storage (some header.rootHash)
      header.cardInfo.salt?).attempt
    match mounted with
    | .ok fileSystem => pure (⟨some storage, some fileSystem⟩, [])
    | .error error => pure (⟨some storage, none⟩, [.rootPartitionMount error])

/-- The partition that an entry of the root partition holds, what is wrong with
it, and what was read. -/
def openPartition (root : FileSystem) (entry : Entry) :
    Partition × Diagnostics × List Extent :=
  match root.openEntry entry with
  | .error error => (.absent, [.partitionOpen entry.name error], [])
  | .ok storage =>
    let mounted := FileSystem.mount storage none none
    match mounted.result with
    | .ok fileSystem => (⟨some storage, some fileSystem⟩, [], mounted.reads)
    | .error error =>
      (⟨some storage, none⟩, [.partitionMount entry.name error], mounted.reads)

structure Gathered where
  partitions : Partitions
  diagnostics : Diagnostics
  reads : List Extent
deriving DecidableEq

def gather (root : FileSystem) : Visitor Gathered := fun gathered visit =>
  match visit with
  | .file _ entry =>
    match PartitionKind.ofName? entry.name with
    | none =>
      ({ gathered with
          diagnostics := gathered.diagnostics ++ [.unrecognizedPartition entry.name] },
        .next)
    | some kind =>
      let (partition, warnings, reads) := openPartition root entry
      (⟨gathered.partitions.set kind partition, gathered.diagnostics ++ warnings,
        gathered.reads ++ reads⟩, .next)
  | _ => (gathered, .next)

def gatherPartitions (root : Partition) : Access Error (Partitions × Diagnostics) :=
  match root.fileSystem with
  | none => pure (.absent, [])
  | some fileSystem =>
    let gathered := (fileSystem.walk (gather fileSystem) ⟨.absent, [], []⟩).1
    ⟨.ok (gathered.partitions, gathered.diagnostics), gathered.reads⟩

def readInitialData (keyArea : Option Storage) : Access Error (Option InitialData) :=
  match keyArea with
  | none => pure none
  | some keyArea => do
    let bytes ← (keyArea.read 0 0x200).mapError .storage
    pure (some (Block.fit 0x200 bytes))

def ofImage (image : Storage) (cipher : HeaderCipher) : Access Error Card := do
  let parts ← SplitImage.ofImage image
  let initialData ← readInitialData parts.keyArea
  let bytes ← (parts.body.read 0 bodyHeaderSize).mapError .storage
  let header : Header := Block.fit 0x200 bytes
  let (decryptedHeader, headerWarnings) := decryptHeader cipher header
  let (secondHeader, secondWarnings) :=
    if header.flags.hasSecondHeader then
      let (second, warnings) := readSecondHeader cipher bytes
      (some second, warnings)
    else (none, [])
  let certificate ← (parts.body.read certificateOffset 0x200).mapError .storage
  let (root, rootWarnings) ← mountRoot parts.body decryptedHeader
  let (partitions, partitionWarnings) ← gatherPartitions root
  pure
    { image, parts, initialData, header, decryptedHeader, secondHeader
      certificate := Block.fit 0x200 certificate
      root, partitions
      diagnostics := headerWarnings ++ secondWarnings ++ rootWarnings ++ partitionWarnings }

/-- The header that the second signature covers: the second one if there is
one, and otherwise the first. -/
def signedHeader (card : Card) : Header :=
  card.secondHeader.elim card.header SecondHeader.header

def decryptedSignedHeader (card : Card) : Header :=
  card.secondHeader.elim card.decryptedHeader SecondHeader.decrypted

def partition (card : Card) (kind : PartitionKind) : Partition :=
  card.partitions.get kind

def mounted (card : Card) (kind : PartitionKind) : Except Error FileSystem :=
  match (card.partition kind).fileSystem with
  | none => .error (.partitionNotMounted kind)
  | some fileSystem => .ok fileSystem

def summary (card : Card) : Json :=
  .object [("has_key_area", .bool card.parts.keyArea.isSome),
    ("body_size", .ofNat card.parts.body.size),
    ("initial_data", .ofOption InitialData.toJson card.initialData),
    ("header", card.decryptedHeader.toJson),
    ("has_ca10_certificate", .bool card.secondHeader.isSome),
    ("partitions", .array (card.root.toJson "root" ::
      PartitionKind.all.map fun kind => (card.partition kind).toJson kind.name)),
    ("warnings", .array (card.diagnostics.map fun warning => .string warning.message))]

end Card

end Gamecard
