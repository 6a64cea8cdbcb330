import Gamecard.Cipher.Aes
import Gamecard.Error

/-!
# Card headers

The header of a card takes five hundred and twelve bytes: a signature, the
header proper, and at its end a region that is stored encrypted.  All numbers
are little-endian.  The raw and the decrypted header are of the same type.
-/

namespace Gamecard

/-- The header of a card, behind its signature. -/
abbrev Header := Block 0x200

structure CardFlags where
  bits : UInt8
deriving DecidableEq

namespace CardFlags

def has (flags : CardFlags) (bit : Nat) : Bool :=
  flags.bits.toNat.testBit bit

def autoBoot (flags : CardFlags) : Bool := flags.has 0

def historyErase (flags : CardFlags) : Bool := flags.has 1

def repairTool (flags : CardFlags) : Bool := flags.has 2

/-- The update is for Terra devices of another region. -/
def differentRegionTerra (flags : CardFlags) : Bool := flags.has 3

/-- The update is for global devices of another region. -/
def differentRegionGlobal (flags : CardFlags) : Bool := flags.has 4

/-- A second header follows, signed with a certificate of its own. -/
def hasSecondHeader (flags : CardFlags) : Bool := flags.has 7

def describe (flags : CardFlags) : String :=
  "CardFlags(" ++ toString flags.bits.toNat ++ ")"

end CardFlags

inductive RomSize where
  | gigabytes (count : Nat)
  | unknown (code : UInt8)
deriving DecidableEq

namespace RomSize

def ofCode (code : UInt8) : RomSize :=
  if code = 0xFA then .gigabytes 1
  else if code = 0xF8 then .gigabytes 2
  else if code = 0xF0 then .gigabytes 4
  else if code = 0xE0 then .gigabytes 8
  else if code = 0xE1 then .gigabytes 16
  else if code = 0xE2 then .gigabytes 32
  else .unknown code

def describe : RomSize → String
  | .gigabytes count => "Size" ++ toString count ++ "GB"
  | .unknown code => "Unknown(" ++ toString code.toNat ++ ")"

def toJson : RomSize → Json
  | .gigabytes count => .string (toString count ++ "GB")
  | .unknown code => .object [("Unknown", .ofNat code.toNat)]

end RomSize

inductive Compatibility where
  | normal
  | terra
  | unknown (code : UInt8)
deriving DecidableEq

namespace Compatibility

def ofCode (code : UInt8) : Compatibility :=
  if code = 0 then .normal else if code = 1 then .terra else .unknown code

def describe : Compatibility → String
  | .normal => "Normal"
  | .terra => "Terra"
  | .unknown code => "Unknown(" ++ toString code.toNat ++ ")"

def toJson : Compatibility → Json
  | .unknown code => .object [("Unknown", .ofNat code.toNat)]
  | known => .string known.describe

end Compatibility

structure CardInfo where
  firmwareVersion : Nat
  accessControl : Nat
  readWaitTime : Nat
  readWaitTime2 : Nat
  writeWaitTime : Nat
  writeWaitTime2 : Nat
  firmwareMode : Nat
  updateVersion : Nat
  compatibilityCode : UInt8
  updateHash : Nat
  updateId : Nat
deriving DecidableEq

namespace CardInfo

def compatibility (info : CardInfo) : Compatibility :=
  .ofCode info.compatibilityCode

/-- The salt of the root partition's digest; normal cards have none. -/
def salt? (info : CardInfo) : Option UInt8 :=
  match info.compatibility with
  | .normal => none
  | _ => some info.compatibilityCode

def toJson (info : CardInfo) : Json :=
  .object [("firmware_version", .ofNat info.firmwareVersion),
    ("access_control", .ofNat info.accessControl),
    ("read_wait_time", .ofNat info.readWaitTime),
    ("read_wait_time2", .ofNat info.readWaitTime2),
    ("write_wait_time", .ofNat info.writeWaitTime),
    ("write_wait_time2", .ofNat info.writeWaitTime2),
    ("firmware_mode", .ofNat info.firmwareMode),
    ("upp_version", .ofNat info.updateVersion),
    ("compatibility_type", .ofNat info.compatibilityCode.toNat),
    ("upp_hash", .ofNat info.updateHash),
    ("upp_id", .ofNat info.updateId)]

end CardInfo

namespace Header

def size : Nat := 0x200

def start : Nat := 0x100

def encryptedStart : Nat := 0x190

def ofBytes? (bytes : Bytes) : Option Header :=
  Block.ofBytes? size (bytes.take size)

def field (header : Header) (offset width : Nat) : Nat :=
  Block.numberAt header (start + offset) width

def signature (header : Header) : Bytes := header.bytes.take start

def magic (header : Header) : Nat := header.field 0x00 4

def validMagic : Nat := 0x44414548

def hasValidMagic (header : Header) : Bool := header.magic == validMagic

def romAreaStartPage (header : Header) : Nat := header.field 0x04 4

def backupAreaStartPage (header : Header) : Nat := header.field 0x08 4

def keyIndex (header : Header) : Nat := header.field 0x0C 1

def romSize (header : Header) : RomSize :=
  .ofCode (Block.byteAt header (start + 0x0D))

def version (header : Header) : Nat := header.field 0x0E 1

def flags (header : Header) : CardFlags :=
  ⟨Block.byteAt header (start + 0x0F)⟩

def packageId (header : Header) : Nat := header.field 0x10 8

def validDataEndPage (header : Header) : Nat := header.field 0x18 4

/-- The initial vector of the encrypted region, last byte first. -/
def initialVector (header : Header) : Key :=
  Block.slice header 0x120 0x10

def rootAddress (header : Header) : Nat := header.field 0x30 8

def rootHeaderSize (header : Header) : Nat := header.field 0x38 8

def rootHash (header : Header) : Digest :=
  Block.slice header 0x140 0x20

def initialDataHash (header : Header) : Digest :=
  Block.slice header 0x160 0x20

def selSec (header : Header) : Nat := header.field 0x80 4

def selT1Key (header : Header) : Nat := header.field 0x84 4

def selKey (header : Header) : Nat := header.field 0x88 4

def limArea (header : Header) : Nat := header.field 0x8C 4

def encryptedData (header : Header) : Block 0x70 :=
  Block.slice header 0x190 0x70

def withEncryptedData (header : Header) (data : Block 0x70) : Header :=
  ⟨header.bytes.take encryptedStart ++ data.bytes, by
    simp [header.length_bytes, data.length_bytes, encryptedStart]⟩

/-- The encrypted region taken as plain contents. -/
def cardInfo (header : Header) : CardInfo :=
  let data := header.encryptedData
  { firmwareVersion := data.numberAt 0x00 8
    accessControl := data.numberAt 0x08 4
    readWaitTime := data.numberAt 0x0C 4
    readWaitTime2 := data.numberAt 0x10 4
    writeWaitTime := data.numberAt 0x14 4
    writeWaitTime2 := data.numberAt 0x18 4
    firmwareMode := data.numberAt 0x1C 4
    updateVersion := data.numberAt 0x20 4
    compatibilityCode := data.byteAt 0x24
    updateHash := data.numberAt 0x28 8
    updateId := data.numberAt 0x30 8 }

def toJson (header : Header) : Json :=
  .object [("magic_valid", .bool header.hasValidMagic),
    ("rom_area_start_page", .ofNat header.romAreaStartPage),
    ("backup_area_start_page", .ofNat header.backupAreaStartPage),
    ("key_index", .ofNat header.keyIndex),
    ("rom_size", header.romSize.toJson),
    ("version", .ofNat header.version),
    ("flags", .ofNat header.flags.bits.toNat),
    ("has_header_sign2", .bool header.flags.hasSecondHeader),
    ("package_id", .string (Hex.ofNat 16 header.packageId)),
    ("valid_data_end_page", .ofNat header.validDataEndPage),
    ("partition_fs_header_address", .ofNat header.rootAddress),
    ("partition_fs_header_size", .ofNat header.rootHeaderSize),
    ("partition_fs_header_hash", header.rootHash.toJson),
    ("initial_data_hash", header.initialDataHash.toJson),
    ("sel_sec", .ofNat header.selSec),
    ("sel_t1_key", .ofNat header.selT1Key),
    ("sel_key", .ofNat header.selKey),
    ("lim_area", .ofNat header.limArea),
    ("card_info", header.cardInfo.toJson)]

end Header

end Gamecard
