import Gamecard.FileSystem
import Gamecard.Storage.Guarded

/-!
# Mounting, guarded

The numbers of a table place everything in it, and they come from the image.  Here the
table is taken apart with each of the sums, ranges and copies that this takes.
-/

namespace Gamecard.FileSystem

open Guarded (add mul room cut copied number)

/-- The number in the bytes of a buffer from one place to another. -/
def numberBetween {ε : Type} (bytes : Bytes) (start stop : Nat) : Guarded ε Nat := do
  number (stop - start) (← cut bytes start stop)

def readNameGuarded (names : Bytes) (offset : Nat) : Guarded Error String := do
  if names.length < offset then .fail (.malformedTable .nameOutside)
  else
    let rest := names.drop offset
    if !rest.contains 0 then .fail (.malformedTable .nameUnterminated)
    else
      let name ← cut rest 0 (rest.takeWhile (· != 0)).length
      match Utf8.decode? name with
      | none => .fail (.nameNotText name)
      | some text => pure text

/-- The entry in a record.  The sums that place its data are checked ones. -/
def readEntryGuarded (names : Bytes) (dataOffset storageSize : Nat) (record : Bytes) :
    Guarded Error Entry := do
  let offset ← numberBetween record 0x00 0x08
  let size ← numberBetween record 0x08 0x10
  let nameOffset ← numberBetween record 0x10 0x14
  let hashedSize ← numberBetween record 0x14 0x18
  let hash ← copied 0x20 (← cut record 0x20 0x40)
  let name ← readNameGuarded names nameOffset
  if dataOffset + offset + size ≤ storageSize then
    pure { name, offset, size, hashedSize, hash := Block.fit 32 hash }
  else .fail (.outOfRange (min (dataOffset + offset) offsetLimit) size storageSize)

def readEntriesGuarded (names : Bytes) (dataOffset storageSize : Nat) :
    List Bytes → Guarded Error (List Entry)
  | [] => pure []
  | record :: rest => do
    let entry ← readEntryGuarded names dataOffset storageSize record
    let entries ← readEntriesGuarded names dataOffset storageSize rest
    pure (entry :: entries)

/-- The number of bytes that an entry takes in memory, at most. -/
def entryRoom : Nat := 0x50

/-- The entries of a table, from the records between its header and the names. -/
def tableEntriesGuarded (table : Bytes) (fileCount namesOffset dataOffset storageSize : Nat) :
    Guarded Error (List Entry) := do
  let names ← cut table namesOffset table.length
  let _ ← room (← mul fileCount entryRoom)
  let records ← cut table headerSize namesOffset
  -- Only whole records count.
  let whole := Bytes.pieces entrySize (records.length / entrySize) records
  readEntriesGuarded names dataOffset storageSize whole

def mountGuarded (storage : Storage) (expected : Option Digest) (salt : Option UInt8) :
    Guarded Error FileSystem := do
  let storageSize := storage.size
  if storageSize < headerSize then .fail (.malformedTable .truncatedHeader)
  else
    let header ← (storage.readGuarded 0 headerSize).mapError .storage
    let mark ← cut header 0 4
    if mark ≠ magic then .fail (.malformedTable .wrongMagic)
    else
      let fileCount ← numberBetween header 4 8
      let namesSize ← numberBetween header 8 12
      let namesOffset ← add headerSize (← mul fileCount entrySize)
      let dataOffset ← add namesOffset namesSize
      if storageSize < dataOffset then .fail (.malformedTable .truncatedTable)
      else
        let table ← (storage.readGuarded 0 (← room dataOffset)).mapError .storage
        let headerHash := tableHash table salt
        if expected.any (· != headerHash) then
          .fail (.hashMismatch (expected.getD headerHash) headerHash)
        else
          let entries ← tableEntriesGuarded table fileCount namesOffset dataOffset storageSize
          pure { storage, entries, dataOffset, headerHash }

def openEntryGuarded (fileSystem : FileSystem) (entry : Entry) : Guarded Error Storage := do
  let start ← add fileSystem.dataOffset entry.offset
  .ofExcept (fileSystem.storage.window? start entry.size)

end Gamecard.FileSystem
