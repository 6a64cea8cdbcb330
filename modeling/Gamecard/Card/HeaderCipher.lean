import Gamecard.Card.Header
import Gamecard.Cipher.Modes

/-!
# Header ciphers

A header cipher turns a header into another one and tells whether it
succeeded; even when it fails, it may leave the header changed.  The cipher
of cards chains the seven blocks of the encrypted region and starts from the
reversed initial vector of the same header.  It fails as long as it has no
key, or if the region were not made of whole blocks, and then it leaves the
header alone.
-/

namespace Gamecard

/-- A way to decrypt headers: what becomes of the header, and why not as
wanted. -/
abbrev HeaderCipher := Header → Header × Except Error Unit

namespace Header

/-- The block with which the chain starts. -/
def chainStart (header : Header) : Key :=
  ⟨header.initialVector.bytes.reverse, by simp [header.initialVector.length_bytes]⟩

def withEncryptedBlocks (header : Header) (blocks : List Key) : Header :=
  header.withEncryptedData (Block.fit 0x70 (blocks.flatMap Block.bytes))

end Header

namespace HeaderCipher

def keyName : KeyName := .scalar .xciHeaderKey

/-- The cipher that puts the blocks of the encrypted region through a chain.  The
region has to be made of whole blocks. -/
def withKey (chain : Key → Key → List Key → List Key) (fault : PaddingFault)
    (key : Option Key) : HeaderCipher :=
  fun header =>
    match key with
    | none => (header, .error (.missingKey keyName))
    | some key =>
      match Aes.wholeBlocks? header.encryptedData.bytes with
      | none => (header, .error (.padding fault))
      | some blocks =>
        (header.withEncryptedBlocks (chain key header.chainStart blocks), .ok ())

def decryption (key : Option Key) : HeaderCipher :=
  withKey Aes.chainDecrypt .decrypting key

def encryption (key : Option Key) : HeaderCipher :=
  withKey Aes.chainEncrypt .encrypting key

end HeaderCipher

end Gamecard
