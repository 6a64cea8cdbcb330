import Gamecard.Hex

/-!
# Key names

A key file names a key either by a fixed name or by the name of a family and a
generation.  Every fixed name and every family has a size in bytes, and a
family has keys for a range of generations.  The order of the lists here is
the order in which keys are listed.
-/

namespace Gamecard

inductive Scalar where
  | secureBootKey
  | tsecKey
  | deviceKey
  | keyblobMacKeySource
  | perConsoleKeySource
  | masterKeySource
  | marikoKek
  | marikoBek
  | tsecRootKek
  | package1MacKek
  | package1Kek
  | aesKekGenerationSource
  | aesKeyGenerationSource
  | keyAreaKeyApplicationSource
  | keyAreaKeyOceanSource
  | keyAreaKeySystemSource
  | titlekekSource
  | headerKekSource
  | headerKeySource
  | headerKey
  | package2KeySource
  | xciHeaderKey
  | sdCardKekSource
  | sdCardNcaKeySource
  | sdCardSaveKeySource
  | saveMacKekSource
  | saveMacKeySource
  | saveMacKey
  | sdCardNcaKey
  | sdCardSaveKey
  | ncaHdrFixedKeyModulus
  | acidFixedKeyModulus
  | package2FixedKeyModulus
deriving DecidableEq

inductive Family where
  | keyblobKeySource
  | keyblobKey
  | keyblobMacKey
  | encryptedKeyblob
  | keyblob
  | marikoMasterKekSource
  | tsecAuthSignature
  | tsecRootKey
  | masterKekSource
  | package1MacKey
  | marikoAesClassKey
  | masterKek
  | masterKey
  | package1Key
  | package2Key
  | titlekek
  | keyAreaKeyApplication
  | keyAreaKeyOcean
  | keyAreaKeySystem
deriving DecidableEq

namespace Scalar

def all : List Scalar := [
  .secureBootKey, .tsecKey, .deviceKey, .keyblobMacKeySource, .perConsoleKeySource,
  .masterKeySource, .marikoKek, .marikoBek, .tsecRootKek, .package1MacKek, .package1Kek,
  .aesKekGenerationSource, .aesKeyGenerationSource, .keyAreaKeyApplicationSource,
  .keyAreaKeyOceanSource, .keyAreaKeySystemSource, .titlekekSource, .headerKekSource,
  .headerKeySource, .headerKey, .package2KeySource, .xciHeaderKey, .sdCardKekSource,
  .sdCardNcaKeySource, .sdCardSaveKeySource, .saveMacKekSource, .saveMacKeySource, .saveMacKey,
  .sdCardNcaKey, .sdCardSaveKey, .ncaHdrFixedKeyModulus, .acidFixedKeyModulus,
  .package2FixedKeyModulus
]

def text : Scalar → String
  | .secureBootKey => "secure_boot_key"
  | .tsecKey => "tsec_key"
  | .deviceKey => "device_key"
  | .keyblobMacKeySource => "keyblob_mac_key_source"
  | .perConsoleKeySource => "per_console_key_source"
  | .masterKeySource => "master_key_source"
  | .marikoKek => "mariko_kek"
  | .marikoBek => "mariko_bek"
  | .tsecRootKek => "tsec_root_kek"
  | .package1MacKek => "package1_mac_kek"
  | .package1Kek => "package1_kek"
  | .aesKekGenerationSource => "aes_kek_generation_source"
  | .aesKeyGenerationSource => "aes_key_generation_source"
  | .keyAreaKeyApplicationSource => "key_area_key_application_source"
  | .keyAreaKeyOceanSource => "key_area_key_ocean_source"
  | .keyAreaKeySystemSource => "key_area_key_system_source"
  | .titlekekSource => "titlekek_source"
  | .headerKekSource => "header_kek_source"
  | .headerKeySource => "header_key_source"
  | .headerKey => "header_key"
  | .package2KeySource => "package2_key_source"
  | .xciHeaderKey => "xci_header_key"
  | .sdCardKekSource => "sd_card_kek_source"
  | .sdCardNcaKeySource => "sd_card_nca_key_source"
  | .sdCardSaveKeySource => "sd_card_save_key_source"
  | .saveMacKekSource => "save_mac_kek_source"
  | .saveMacKeySource => "save_mac_key_source"
  | .saveMacKey => "save_mac_key"
  | .sdCardNcaKey => "sd_card_nca_key"
  | .sdCardSaveKey => "sd_card_save_key"
  | .ncaHdrFixedKeyModulus => "nca_hdr_fixed_key_modulus"
  | .acidFixedKeyModulus => "acid_fixed_key_modulus"
  | .package2FixedKeyModulus => "package2_fixed_key_modulus"

@[reducible] def size : Scalar → Nat
  | .headerKeySource | .headerKey | .sdCardNcaKeySource => 32
  | .sdCardSaveKeySource | .sdCardNcaKey | .sdCardSaveKey => 32
  | .ncaHdrFixedKeyModulus | .acidFixedKeyModulus | .package2FixedKeyModulus => 0x100
  | _ => 16

end Scalar

namespace Family

def all : List Family := [
  .keyblobKeySource, .keyblobKey, .keyblobMacKey, .encryptedKeyblob, .keyblob,
  .marikoMasterKekSource, .tsecAuthSignature, .tsecRootKey, .masterKekSource, .package1MacKey,
  .marikoAesClassKey, .masterKek, .masterKey, .package1Key, .package2Key, .titlekek,
  .keyAreaKeyApplication, .keyAreaKeyOcean, .keyAreaKeySystem
]

def text : Family → String
  | .keyblobKeySource => "keyblob_key_source"
  | .keyblobKey => "keyblob_key"
  | .keyblobMacKey => "keyblob_mac_key"
  | .encryptedKeyblob => "encrypted_keyblob"
  | .keyblob => "keyblob"
  | .marikoMasterKekSource => "mariko_master_kek_source"
  | .tsecAuthSignature => "tsec_auth_signature"
  | .tsecRootKey => "tsec_root_key"
  | .masterKekSource => "master_kek_source"
  | .package1MacKey => "package1_mac_key"
  | .marikoAesClassKey => "mariko_aes_class_key"
  | .masterKek => "master_kek"
  | .masterKey => "master_key"
  | .package1Key => "package1_key"
  | .package2Key => "package2_key"
  | .titlekek => "titlekek"
  | .keyAreaKeyApplication => "key_area_key_application"
  | .keyAreaKeyOcean => "key_area_key_ocean"
  | .keyAreaKeySystem => "key_area_key_system"

@[reducible] def size : Family → Nat
  | .encryptedKeyblob => 0xB0
  | .keyblob => 0x90
  | _ => 16

def first : Family → Nat
  | .masterKekSource | .package1MacKey => 6
  | _ => 0

@[reducible] def stop : Family → Nat
  | .keyblobKeySource | .keyblobKey | .keyblobMacKey => 6
  | .encryptedKeyblob | .keyblob => 6
  | .tsecAuthSignature | .tsecRootKey => 26
  | .marikoAesClassKey => 12
  | _ => 32

end Family

/-- The name of a key.  The generation may lie outside the range of its family;
such a name is not known. -/
inductive KeyName where
  | scalar (key : Scalar)
  | generational (family : Family) (generation : UInt8)
deriving DecidableEq

namespace KeyName

def base : KeyName → String
  | .scalar key => key.text
  | .generational family _ => family.text

def generation? : KeyName → Option UInt8
  | .scalar _ => none
  | .generational _ generation => some generation

def isKnown : KeyName → Bool
  | .scalar _ => true
  | .generational family generation =>
    family.first ≤ generation.toNat && generation.toNat < family.stop

def generationDigits (generation : UInt8) : List Char :=
  (Hex.ofNat 2 generation.toNat).toList

def text : KeyName → String
  | .scalar key => key.text
  | .generational family generation =>
    String.ofList (family.text.toList ++ '_' :: generationDigits generation)

/-- The words of the base name with capital initials and nothing between them,
and the generation in brackets. -/
def label (name : KeyName) : String :=
  let words := (name.base.splitOn "_").map String.capitalize
  String.join words ++ match name.generation? with
    | none => ""
    | some generation => "(" ++ toString generation.toNat ++ ")"

end KeyName

inductive CatalogEntry where
  | scalar (key : Scalar)
  | perGeneration (family : Family)
deriving DecidableEq

namespace CatalogEntry

def all : List CatalogEntry :=
  Scalar.all.map .scalar ++ Family.all.map .perGeneration

def text : CatalogEntry → String
  | .scalar key => key.text
  | .perGeneration family => family.text

/-- The name of the key of a generation, which a fixed name ignores. -/
def named (entry : CatalogEntry) (generation : UInt8) : KeyName :=
  match entry with
  | .scalar key => .scalar key
  | .perGeneration family => .generational family generation

def generations : CatalogEntry → List UInt8
  | .scalar _ => []
  | .perGeneration family =>
    (List.range' family.first (family.stop - family.first)).map UInt8.ofNat

def names : CatalogEntry → List KeyName
  | .scalar key => [.scalar key]
  | .perGeneration family =>
    (generations (.perGeneration family)).map (.generational family)

end CatalogEntry

def KeyName.all : List KeyName :=
  CatalogEntry.all.flatMap CatalogEntry.names

end Gamecard
