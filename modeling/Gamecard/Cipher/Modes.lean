import Gamecard.Cipher.Aes

/-!
# Modes of AES

Counter mode turns the cipher into a stream that is combined with the data,
chaining mode combines every block with the one before it, and the keyed
message code of RFC 4493 chains the whole message into a single block.
-/

namespace Gamecard.Aes

/-- The `count` key stream blocks from a counter on.  The counter is a number of
128 bits, most significant byte first, and starts again after the greatest. -/
def counterStream (key counter : Key) : Nat → Bytes
  | 0 => []
  | count + 1 =>
    (encrypt key counter).bytes ++
      counterStream key (Block.fit 16 (Bytes.ofBigEndian 16 (counter.bytes.bigEndian + 1))) count

def applyCounter {size : Nat} (key counter : Key) (data : Block size) : Block size :=
  Block.fit size (data.bytes.xor (counterStream key counter ((size + 15) / 16)))

/-- The blocks that a byte string consists of, if no bytes are left over. -/
def wholeBlocks? (data : Bytes) : Option (List Key) :=
  if data.length % 16 = 0 then
    some ((Bytes.pieces 16 (data.length / 16) data).map (Block.fit 16))
  else none

/-- Chained encryption of blocks; `previous` is combined with the first. -/
def chainEncrypt (key : Key) : Key → List Key → List Key
  | _, [] => []
  | previous, block :: rest =>
    let sealed := encrypt key (block.xor previous)
    sealed :: chainEncrypt key sealed rest

def chainDecrypt (key : Key) : Key → List Key → List Key
  | _, [] => []
  | previous, block :: rest =>
    (decrypt key block).xor previous :: chainDecrypt key block rest

/-- Twice a block as an element of the field of 2 ^ 128 elements. -/
def doubleBlock (block : Key) : Key :=
  let doubled := Block.fit 16 (Bytes.ofBigEndian 16 (2 * block.bytes.bigEndian))
  if block.byteAt 0 < 0x80 then doubled
  else doubled.xor (Block.fit 16 (Bytes.ofBigEndian 16 0x87))

/-- The last block of a message, marked as whole or filled up. -/
def finishBlock (key : Key) (last : Bytes) : Key :=
  let once := doubleBlock (encrypt key (Block.zero 16))
  if last.length = 16 then (Block.fit 16 last).xor once
  else (Block.fit 16 (last ++ [0x80])).xor (doubleBlock once)

def messageCode (key : Key) (message : Bytes) : Key :=
  let whole := (message.length - 1) / 16
  let chained := (Bytes.pieces 16 whole message).foldl
    (fun state piece => encrypt key (state.xor (Block.fit 16 piece))) (Block.zero 16)
  encrypt key (chained.xor (finishBlock key (message.drop (16 * whole))))

end Gamecard.Aes
