import Gamecard.Cipher.Aes
import Gamecard.Warning

/-!
# Title keys

Title keys are kept under their rights ids, in the order of the ids' bytes.
A pair is dropped when its rights id is malformed.  The value is taken over
whatever it is: cut off or padded to the size of a key, with zero for every
character that is no digit.
-/

namespace Gamecard

abbrev RightsId := Block 16

structure TitleKeys where
  entries : List (RightsId × Key)
deriving DecidableEq

namespace TitleKeys

def empty : TitleKeys :=
  ⟨[]⟩

/-- The entries with one more, in place of an earlier one with the same id. -/
def insertEntry (id : RightsId) (key : Key) :
    List (RightsId × Key) → List (RightsId × Key)
  | [] => [(id, key)]
  | (other, kept) :: rest =>
    if id = other then (id, key) :: rest
    else if id.bytes < other.bytes then (id, key) :: (other, kept) :: rest
    else (other, kept) :: insertEntry id key rest

def insert (keys : TitleKeys) (id : RightsId) (key : Key) : TitleKeys :=
  ⟨insertEntry id key keys.entries⟩

def get? (keys : TitleKeys) (id : RightsId) : Option Key :=
  keys.entries.lookup id

def size (keys : TitleKeys) : Nat :=
  keys.entries.length

def rightsIdFault? (rightsId : String) : Option RightsIdFault :=
  let length := (Utf8.encode rightsId).length
  if length % 2 ≠ 0 then some .oddLength
  else if length ≠ 32 then some .wrongLength
  else if !Hex.isHexText rightsId then some .notHex
  else none

def ingest (keys : TitleKeys) (rightsId value : String) : TitleKeys × Option Warning :=
  match rightsIdFault? rightsId with
  | some fault => (keys, some (.malformedRightsId rightsId fault))
  | none =>
    (keys.insert (Hex.decodeText 16 rightsId) (Hex.decodeText 16 value),
      if (Utf8.encode value).length ≠ 32 then some (.malformedTitleKey rightsId) else none)

def ingestAll (keys : TitleKeys) : List (String × String) → TitleKeys × Diagnostics
  | [] => (keys, [])
  | (rightsId, value) :: rest =>
    let (next, warning) := keys.ingest rightsId value
    let (final, later) := next.ingestAll rest
    (final, warning.toList ++ later)

end TitleKeys

end Gamecard
