import Gamecard.FileSystem

/-!
# Building file systems

The image of a file system is laid out from names and contents: files follow
each other in the order given, names likewise, and the names are filled up
with zeros to a multiple of thirty-two bytes.
-/

namespace Gamecard

structure Image where
  data : Bytes
  tableSize : Nat
deriving DecidableEq

namespace Image

abbrev File := String × Bytes

/-- A name as it stands among the names. -/
def terminatedName (file : File) : Bytes :=
  Utf8.encode file.1 ++ [0]

/-- The names of the files, filled up. -/
def names (files : List File) : Bytes :=
  let plain := files.flatMap terminatedName
  plain ++ Bytes.zeros (Alignment.up plain.length 0x20 - plain.length)

/-- The entry of a file whose name and data are at the given offsets. -/
def record (nameOffset dataOffset : Nat) (file : File) : Bytes :=
  Bytes.ofLittleEndian 8 dataOffset ++ Bytes.ofLittleEndian 8 file.2.length ++
    Bytes.ofLittleEndian 4 nameOffset ++ Bytes.ofLittleEndian 4 file.2.length ++
    Bytes.zeros 8 ++ (Sha256.digest file.2).bytes

def records (nameOffset dataOffset : Nat) : List File → Bytes
  | [] => []
  | file :: rest =>
    record nameOffset dataOffset file ++
      records (nameOffset + (terminatedName file).length) (dataOffset + file.2.length) rest

def table (files : List File) : Bytes :=
  FileSystem.magic ++ Bytes.ofLittleEndian 4 files.length ++
    Bytes.ofLittleEndian 4 (names files).length ++ Bytes.zeros 4 ++
    records 0 0 files ++ names files

def build (files : List File) : Image where
  data := table files ++ files.flatMap Prod.snd
  tableSize := (table files).length

/-- The digest that mounting the image with this salt gives. -/
def headerHash (image : Image) (salt : Option UInt8) : Digest :=
  FileSystem.tableHash (image.data.take image.tableSize) salt

end Image

end Gamecard
