import Gamecard.Cipher.Modes
import Gamecard.Error

/-!
# Keyblobs

An encrypted keyblob is a message code of sixteen bytes, a counter of sixteen
bytes, and the payload under the key stream from that counter on.  The code
covers the counter and the encrypted payload and is checked first.  Encrypting a
payload makes such a blob of it.
-/

namespace Gamecard

abbrev Keyblob := Block 0x90

abbrev EncryptedKeyblob := Block 0xB0

namespace EncryptedKeyblob

def code (blob : EncryptedKeyblob) : Key :=
  Block.slice blob 0 0x10

def counter (blob : EncryptedKeyblob) : Key :=
  Block.slice blob 0x10 0x10

def payload (blob : EncryptedKeyblob) : Keyblob :=
  Block.slice blob 0x20 0x90

/-- What the message code covers. -/
def covered (blob : EncryptedKeyblob) : Bytes :=
  blob.bytes.drop 0x10

/-- The blob that has these parts. -/
def ofParts (code counter : Key) (payload : Keyblob) : EncryptedKeyblob :=
  ⟨code.bytes ++ (counter.bytes ++ payload.bytes), by
    simp [code.length_bytes, counter.length_bytes, payload.length_bytes]⟩

def decrypt (blob : EncryptedKeyblob) (key codeKey : Key) (generation : Nat) :
    Except Error Keyblob :=
  if Aes.messageCode codeKey blob.covered = blob.code then
    .ok (Aes.applyCounter key blob.counter blob.payload)
  else .error (.keyblobCode generation)

end EncryptedKeyblob

namespace Keyblob

/-- The payload encrypted from a counter on, under the code of both. -/
def encrypt (payload : Keyblob) (key codeKey counter : Key) : EncryptedKeyblob :=
  let hidden := Aes.applyCounter key counter payload
  .ofParts (Aes.messageCode codeKey (counter.bytes ++ hidden.bytes)) counter hidden

/-- The key in the first sixteen bytes, from which the master key is unwrapped. -/
def masterKek (blob : Keyblob) : Key :=
  Block.slice blob 0 0x10

/-- The key in the last sixteen bytes. -/
def package1Key (blob : Keyblob) : Key :=
  Block.slice blob 0x80 0x10

end Keyblob

end Gamecard
