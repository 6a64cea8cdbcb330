import Gamecard.Cipher.Modes
import Gamecard.Proofs.Cipher.Rounds
import Mathlib.Data.List.Basic

/-!
# Undoing the modes of AES

The key stream of counter mode consists of the counters that follow each other,
encrypted; combining with it twice changes nothing.  A chain of blocks is undone by
the chain that runs the other way, in both orders, since each block is combined with
the encrypted one before it.
-/

namespace Gamecard

namespace Bytes

/-- A number is read back as its part that fits the width. -/
theorem littleEndian_ofLittleEndian_mod (width value : Nat) :
    littleEndian (ofLittleEndian width value) = value % 256 ^ width := by
  induction width generalizing value with
  | zero =>
      rw [Nat.pow_zero, Nat.mod_one]
      rfl
  | succ width induction =>
      have low : (UInt8.ofNat value).toNat = value % 256 := UInt8.toNat_ofNat
      rw [ofLittleEndian, littleEndian, induction, low, Nat.pow_succ', Nat.mod_mul]

theorem ofBigEndian_bigEndian (bytes : Bytes) :
    ofBigEndian bytes.length bytes.bigEndian = bytes := by
  apply List.reverse_injective
  rw [ofBigEndian, List.reverse_reverse]
  apply littleEndian_injective
  · rw [length_ofLittleEndian, List.length_reverse]
  · have bounded := littleEndian_lt bytes.reverse
    rw [List.length_reverse] at bounded
    rw [littleEndian_ofLittleEndian_mod, bigEndian, Nat.mod_eq_of_lt bounded]

theorem bigEndian_ofBigEndian (width value : Nat) :
    bigEndian (ofBigEndian width value) = value % 256 ^ width := by
  rw [bigEndian, ofBigEndian, List.reverse_reverse, littleEndian_ofLittleEndian_mod]

theorem ofBigEndian_mod (width value : Nat) :
    ofBigEndian width (value % 256 ^ width) = ofBigEndian width value := by
  apply congrArg List.reverse
  apply littleEndian_injective
  · rw [length_ofLittleEndian, length_ofLittleEndian]
  · rw [littleEndian_ofLittleEndian_mod, littleEndian_ofLittleEndian_mod, Nat.mod_mod]

end Bytes

namespace Aes

/-- The counter some steps on, as a number of 128 bits that starts again at zero. -/
def counterAfter (counter : Key) (steps : Nat) : Key :=
  Block.fit 16 (Bytes.ofBigEndian 16 ((counter.bytes.bigEndian + steps) % 2 ^ 128))

/-- The key stream of so many blocks from a counter on. -/
def keyStream (key counter : Key) (count : Nat) : Bytes :=
  (List.range count).flatMap fun steps => (encrypt key (counterAfter counter steps)).bytes

theorem bytes_counterAfter (counter : Key) (steps : Nat) :
    (counterAfter counter steps).bytes =
      Bytes.ofBigEndian 16 (counter.bytes.bigEndian + steps) := by
  rw [counterAfter, Block.bytes_fit, Bytes.fit_of_length_eq (Bytes.length_ofBigEndian _ _)]
  exact Bytes.ofBigEndian_mod 16 _

theorem counterAfter_zero (counter : Key) : counterAfter counter 0 = counter := by
  apply Block.ext
  have same := Bytes.ofBigEndian_bigEndian counter.bytes
  rw [counter.length_bytes] at same
  rw [bytes_counterAfter, Nat.add_zero, same]

theorem counterAfter_counterAfter (counter : Key) (first second : Nat) :
    counterAfter (counterAfter counter first) second =
      counterAfter counter (first + second) := by
  apply Block.ext
  have wraps : ((counter.bytes.bigEndian + first) % 256 ^ 16 + second) % 256 ^ 16 =
      (counter.bytes.bigEndian + (first + second)) % 256 ^ 16 := by
    rw [Nat.mod_add_mod, Nat.add_assoc]
  rw [bytes_counterAfter, bytes_counterAfter, bytes_counterAfter, Bytes.bigEndian_ofBigEndian,
    ← Bytes.ofBigEndian_mod, wraps, Bytes.ofBigEndian_mod]

theorem counterStream_eq (key counter : Key) (count : Nat) :
    counterStream key counter count = keyStream key counter count := by
  induction count generalizing counter with
  | zero => rfl
  | succ count induction =>
      have next : Block.fit 16 (Bytes.ofBigEndian 16 (counter.bytes.bigEndian + 1)) =
          counterAfter counter 1 := by
        apply Block.ext
        rw [bytes_counterAfter, Block.bytes_fit,
          Bytes.fit_of_length_eq (Bytes.length_ofBigEndian _ _)]
      rw [counterStream, next, induction, keyStream, keyStream, List.range_succ_eq_map,
        List.flatMap_cons, List.flatMap_map, counterAfter_zero]
      simp only [counterAfter_counterAfter, Nat.succ_eq_add_one, Nat.add_comm]

theorem length_keyStream (key counter : Key) (count : Nat) :
    (keyStream key counter count).length = 16 * count := by
  rw [← counterStream_eq]
  induction count generalizing counter with
  | zero => rfl
  | succ count induction =>
      rw [counterStream, List.length_append, induction, Block.length_bytes]
      omega

/-- As many blocks of key stream as it takes are combined with the data. -/
theorem bytes_applyCounter {size : Nat} (key counter : Key) (data : Block size) :
    (applyCounter key counter data).bytes =
      data.bytes.xor (keyStream key counter ((size + 15) / 16)) := by
  have covered : size ≤ 16 * ((size + 15) / 16) := by omega
  rw [applyCounter, counterStream_eq, Block.bytes_fit]
  apply Bytes.fit_of_length_eq
  rw [Bytes.length_xor, data.length_bytes, length_keyStream]
  omega

theorem applyCounter_applyCounter {size : Nat} (key counter : Key) (data : Block size) :
    applyCounter key counter (applyCounter key counter data) = data := by
  apply Block.ext
  rw [bytes_applyCounter, bytes_applyCounter]
  apply Bytes.xor_xor_right
  rw [data.length_bytes, length_keyStream]
  omega

theorem length_chainEncrypt (key previous : Key) (blocks : List Key) :
    (chainEncrypt key previous blocks).length = blocks.length := by
  induction blocks generalizing previous with
  | nil => rfl
  | cons block rest induction => rw [chainEncrypt, List.length_cons, induction, List.length_cons]

theorem length_chainDecrypt (key previous : Key) (blocks : List Key) :
    (chainDecrypt key previous blocks).length = blocks.length := by
  induction blocks generalizing previous with
  | nil => rfl
  | cons block rest induction => rw [chainDecrypt, List.length_cons, induction, List.length_cons]

theorem chainDecrypt_chainEncrypt (key previous : Key) (blocks : List Key) :
    chainDecrypt key previous (chainEncrypt key previous blocks) = blocks := by
  induction blocks generalizing previous with
  | nil => rfl
  | cons block rest induction =>
      rw [chainEncrypt, chainDecrypt, decrypt_encrypt, Block.xor_xor_right, induction]

theorem chainEncrypt_chainDecrypt (key previous : Key) (blocks : List Key) :
    chainEncrypt key previous (chainDecrypt key previous blocks) = blocks := by
  induction blocks generalizing previous with
  | nil => rfl
  | cons block rest induction =>
      rw [chainDecrypt, chainEncrypt, Block.xor_xor_right, encrypt_decrypt, induction]

end Aes

end Gamecard
