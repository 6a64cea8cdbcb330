import Gamecard.Storage.Reader

/-!
# Partition file systems

A file system of a card is flat.  Its storage starts with a table: a header of
sixteen bytes, an entry of sixty-four bytes for each file, and the names of
the files, each followed by a zero byte.  The data of the files follow.  An
entry tells where the data of its file are and has the digest of their start.
-/

namespace Gamecard

structure Entry where
  name : String
  offset : Nat
  size : Nat
  /-- How many bytes from the start of the file the digest covers. -/
  hashedSize : Nat
  hash : Digest
deriving DecidableEq

structure FileSystem where
  storage : Storage
  entries : List Entry
  dataOffset : Nat
  headerHash : Digest
deriving DecidableEq

namespace FileSystem

def magic : Bytes := [0x48, 0x46, 0x53, 0x30]

def headerSize : Nat := 0x10

def entrySize : Nat := 0x40

/-- The digest of a table, followed by the salt if there is one. -/
def tableHash (table : Bytes) (salt : Option UInt8) : Digest :=
  Sha256.digest (table ++ salt.toList)

/-- The greatest number of sixty-four bits, which larger offsets are reported as. -/
def offsetLimit : Nat := 0xFFFFFFFFFFFFFFFF

def readName (names : Bytes) (offset : Nat) : Except Error String :=
  if names.length < offset then .error (.malformedTable .nameOutside)
  else
    let rest := names.drop offset
    if !rest.contains 0 then .error (.malformedTable .nameUnterminated)
    else
      let name := rest.takeWhile (· != 0)
      match Utf8.decode? name with
      | none => .error (.nameNotText name)
      | some text => .ok text

/-- The entry in its sixty-four bytes.  The data of its file have to lie within
a storage of `storageSize` bytes. -/
def readEntry (names : Bytes) (dataOffset storageSize : Nat) (record : Bytes) :
    Except Error Entry := do
  let offset := record.numberAt 0x00 8
  let size := record.numberAt 0x08 8
  let name ← readName names (record.numberAt 0x10 4)
  if dataOffset + offset + size ≤ storageSize then
    .ok
      { name, offset, size
        hashedSize := record.numberAt 0x14 4
        hash := Block.fit 32 (record.slice 0x20 0x20) }
  else .error (.outOfRange (min (dataOffset + offset) offsetLimit) size storageSize)

def readEntries (names : Bytes) (dataOffset storageSize : Nat) :
    List Bytes → Except Error (List Entry)
  | [] => .ok []
  | record :: rest => do
    let entry ← readEntry names dataOffset storageSize record
    let entries ← readEntries names dataOffset storageSize rest
    .ok (entry :: entries)

/-- The file system whose table is at the start of a storage.  With an expected
digest, the table and the salt have to have it. -/
def mount (storage : Storage) (expected : Option Digest) (salt : Option UInt8) :
    Access Error FileSystem := do
  let storageSize := storage.size
  if storageSize < headerSize then .fail (.malformedTable .truncatedHeader)
  else
    let header ← (storage.read 0 headerSize).mapError .storage
    if header.take 4 ≠ magic then .fail (.malformedTable .wrongMagic)
    else
      let fileCount := header.numberAt 4 4
      let namesOffset := headerSize + fileCount * entrySize
      let dataOffset := namesOffset + header.numberAt 8 4
      if storageSize < dataOffset then .fail (.malformedTable .truncatedTable)
      else
        let table ← (storage.read 0 dataOffset).mapError .storage
        let headerHash := tableHash table salt
        if expected.any (· != headerHash) then
          .fail (.hashMismatch (expected.getD headerHash) headerHash)
        else
          let records := Bytes.pieces entrySize fileCount (table.drop headerSize)
          let entries ← .ofExcept
            (readEntries (table.drop namesOffset) dataOffset storageSize records)
          pure { storage, entries, dataOffset, headerHash }

def find? (fileSystem : FileSystem) (name : String) : Option Entry :=
  fileSystem.entries.find? fun entry => entry.name == name

def openEntry (fileSystem : FileSystem) (entry : Entry) : Except Error Storage :=
  fileSystem.storage.window? (fileSystem.dataOffset + entry.offset) entry.size

def openFile (fileSystem : FileSystem) (name : String) : Except Error Storage :=
  match fileSystem.find? name with
  | none => .error (.missingFile name)
  | some entry => fileSystem.openEntry entry

/-- Checks the digest of the start of an entry's file. -/
def verify (fileSystem : FileSystem) (entry : Entry) : Access Error Unit := do
  let file ← .ofExcept (fileSystem.openEntry entry)
  let bytes ← (file.read 0 (min entry.hashedSize entry.size)).mapError .storage
  let actual := Sha256.digest bytes
  if actual = entry.hash then pure () else .fail (.hashMismatch entry.hash actual)

def contents (fileSystem : FileSystem) (entry : Entry) : Access Error Bytes := do
  let file ← .ofExcept (fileSystem.openEntry entry)
  file.contents.mapError .storage

end FileSystem

namespace Entry

def describe (entry : Entry) : String :=
  "Hfs0Entry \x7b name: " ++ Text.quote entry.name ++
    ", offset: " ++ toString entry.offset ++ ", size: " ++ toString entry.size ++
    ", hashed_size: " ++ toString entry.hashedSize ++
    ", hash: " ++ entry.hash.describe "Hash" ++ " \x7d"

def toJson (entry : Entry) : Json :=
  .object [("name", .string entry.name), ("offset", .ofNat entry.offset),
    ("size", .ofNat entry.size), ("hashed_size", .ofNat entry.hashedSize),
    ("hash", entry.hash.toJson)]

end Entry

def FileSystem.describe (fileSystem : FileSystem) : String :=
  "Hfs0 \x7b entries: [" ++ ", ".intercalate (fileSystem.entries.map Entry.describe) ++
    "], data_offset: " ++ toString fileSystem.dataOffset ++
    ", header_hash: " ++ fileSystem.headerHash.describe "Hash" ++ " \x7d"

end Gamecard
