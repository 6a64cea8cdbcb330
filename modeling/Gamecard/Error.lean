import Gamecard.Card.PartitionKind
import Gamecard.Json.HexString
import Gamecard.Key.Name
import Gamecard.KeyFile.Error
import Gamecard.Sha256

/-!
# Errors

Everything that ends an operation, by its cause, and the one place where each
cause gets its wording.
-/

namespace Gamecard

inductive TableFault where
  | truncatedHeader
  | wrongMagic
  | truncatedTable
  | nameOutside
  | nameUnterminated
deriving DecidableEq

def TableFault.message : TableFault → String
  | .truncatedHeader => "header is truncated"
  | .wrongMagic => "magic is wrong"
  | .truncatedTable => "file table is truncated"
  | .nameOutside => "file name is outside of the string table"
  | .nameUnterminated => "file name is not terminated"

/-- Data to encrypt or to decrypt that is not made of whole blocks. -/
inductive PaddingFault where
  | encrypting
  | decrypting
deriving DecidableEq

def PaddingFault.message : PaddingFault → String
  | .encrypting => "Padding Error"
  | .decrypting => "Unpad Error"

inductive Error where
  | file (path : String) (cause : IoError)
  | storage (cause : IoError)
  | keyFile (cause : KeyFileError)
  | noPairs
  | padding (fault : PaddingFault)
  | keyblobCode (generation : Nat)
  | missingKey (name : KeyName)
  | malformedTable (fault : TableFault)
  | hashMismatch (expected actual : Digest)
  | outOfRange (offset size storageSize : Nat)
  | missingFile (name : String)
  | unsafeFileName (name : String)
  | partitionNotMounted (kind : PartitionKind)
  | unknownKey (name : KeyName)
  | keyLength (name : KeyName) (expected actual : Nat)
  | nameNotText (name : Bytes)
deriving DecidableEq

namespace Error

def message : Error → String
  | .file path cause => path ++ ": " ++ cause.message
  | .storage cause =>
    "Internal IO Error (please submit a bug report with the backtrace): " ++ cause.message
  | .keyFile cause => "Error parsing the INI file: " ++ cause.message
  | .noPairs => "The key file has no general section"
  | .padding fault => "Key derivation error: " ++ fault.message
  | .keyblobCode generation =>
    "Invalid keyblob " ++ toString generation ++ ": MAC tag mismatch."
  | .missingKey name =>
    "Missing key " ++ name.text ++ ". Make sure your keyfile is complete"
  | .malformedTable fault => "Invalid HFS0: " ++ fault.message ++ "."
  | .hashMismatch expected actual =>
    "HFS0 header hash mismatch (expected " ++ expected.toHex ++ ", got " ++
      actual.toHex ++ ")"
  | .outOfRange offset size storageSize =>
    "Range " ++ Hex.marked offset ++ "+" ++ Hex.marked size ++
      " is out of bounds of a storage of size " ++ Hex.marked storageSize
  | .missingFile name => "No file named " ++ name ++ " in partition"
  | .unsafeFileName name =>
    "Refusing to extract " ++ Text.quote name ++ ": not a plain file name"
  | .partitionNotMounted kind =>
    "The " ++ kind.name ++ " partition is missing or didn't mount"
  | .unknownKey name => name.text ++ " is not a known key"
  | .keyLength name expected actual =>
    name.text ++ " is " ++ toString expected ++ " bytes long, got " ++ toString actual
  | .nameNotText name =>
    "Failed to convert filename to UTF8: " ++ Utf8.decodeLossy name ++ "."

/-- Whether the error ends the program on the spot, with nothing printed. -/
def isFatal : Error → Bool
  | .noPairs => true
  | _ => false

/-- An error of a storage as an error of the file that the storage is. -/
def inFile (path : String) : Error → Error
  | .storage cause => .file path cause
  | error => error

end Error

end Gamecard
