import Gamecard.Error

/-!
# Warnings

Odd key files, missing keys and broken partitions do not stop anything.  They
are collected in the order in which they were met.
-/

namespace Gamecard

inductive RightsIdFault where
  | oddLength
  | wrongLength
  | notHex
deriving DecidableEq

def RightsIdFault.message : RightsIdFault → String
  | .oddLength => "odd number of characters"
  | .wrongLength => "wrong number of characters"
  | .notHex => "not hexadecimal"

inductive Warning where
  | oddLengthValue (key : String)
  | nonHexValue (key : String)
  | unknownKey (key value : String)
  | keyLengthMismatch (key : String) (length expected : Nat)
  | malformedRightsId (rightsId : String) (fault : RightsIdFault)
  | malformedTitleKey (rightsId : String)
  | keyFileNotFound (fileName : String)
  | keyblobVerification (generation : Nat) (error : Error)
  | headerCipherUnavailable (error : Error)
  | headerNotDecrypted (error : Error)
  | rootPartitionMount (error : Error)
  | unrecognizedPartition (name : String)
  | partitionOpen (name : String) (error : Error)
  | partitionMount (name : String) (error : Error)
deriving DecidableEq

abbrev Diagnostics := List Warning

namespace Warning

def cause? : Warning → Option Error
  | .keyblobVerification _ error => some error
  | .headerCipherUnavailable error => some error
  | .headerNotDecrypted error => some error
  | .rootPartitionMount error => some error
  | .partitionOpen _ error => some error
  | .partitionMount _ error => some error
  | _ => none

def message : Warning → String
  | .oddLengthValue key =>
    "Key " ++ key ++ " has malformed value (odd number of characters)"
  | .nonHexValue key => "Key " ++ key ++ " has malformed value (not hexadecimal)"
  | .unknownKey key value =>
    "Failed to match key \"" ++ key ++ "\", (value \"" ++ value ++ "\")"
  | .keyLengthMismatch key length expected =>
    "Encountered malformed value for " ++ key ++ " (length " ++ toString length ++
      " != expected " ++ toString expected ++ ")"
  | .malformedRightsId rightsId fault =>
    "Rights Id " ++ rightsId ++ " has malformed id (" ++ fault.message ++ ")"
  | .malformedTitleKey rightsId =>
    "Rights Id " ++ rightsId ++ " has malformed value (wrong number of characters)"
  | .keyFileNotFound fileName => "No " ++ fileName ++ " found in the default locations"
  | .keyblobVerification generation error =>
    "Keyblob " ++ Hex.ofNat 2 generation ++ " failed verification: " ++ error.message
  | .headerCipherUnavailable error =>
    "Failed to preset the gamecard header key: " ++ error.message ++
      ". Is xci_header_key correct?"
  | .headerNotDecrypted error =>
    "Failed to decrypt the gamecard header: " ++ error.message
  | .rootPartitionMount error =>
    "Failed to mount the game card root partition: " ++ error.message
  | .unrecognizedPartition name =>
    "Found unrecognized game card partition (" ++ name ++ ")"
  | .partitionOpen name error =>
    "Failed to open game card partition (" ++ name ++ "): " ++ error.message
  | .partitionMount name error =>
    "Failed to mount game card partition (" ++ name ++ "): " ++ error.message

end Warning

end Gamecard
