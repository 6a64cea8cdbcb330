import Gamecard.Error

/-!
# Initial data

The key area of a card starts with the initial data: an identification and the
pieces with which a console proves that it may read the card.
-/

namespace Gamecard

abbrev InitialData := Block 0x200

namespace InitialData

def packageId (data : InitialData) : Nat :=
  Block.numberAt data 0 8

def authData (data : InitialData) : Block 0x10 :=
  Block.slice data 0x10 0x10

def authCode (data : InitialData) : Block 0x10 :=
  Block.slice data 0x20 0x10

def authNonce (data : InitialData) : Block 0x0C :=
  Block.slice data 0x30 0x0C

def toJson (data : InitialData) : Json :=
  .object [("package_id", .string (Hex.ofNat 16 data.packageId)),
    ("auth_data", data.authData.toJson),
    ("auth_mac", data.authCode.toJson),
    ("auth_nonce", data.authNonce.toJson)]

end InitialData

end Gamecard
