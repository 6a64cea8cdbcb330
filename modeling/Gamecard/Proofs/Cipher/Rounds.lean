import Gamecard.Cipher.Aes
import Gamecard.Proofs.Bytes
import Mathlib.Data.Finite.Vector

/-!
# Undoing the rounds of AES

Decryption takes the steps of encryption back one by one, last round first.  The
mixing of columns is linear over exclusive or, so undoing it comes down to sums of
doubled bytes in which everything but one byte cancels.  A block has finitely many
values, so that encryption, which loses nothing, also undoes decryption.
-/

namespace Gamecard

namespace Block

variable {size : Nat}

instance : Finite (Block size) := by
  have bytes : Finite UInt8 := Finite.of_injective UInt8.toFin fun _ _ => UInt8.toFin_inj.mp
  let toVector (block : Block size) : List.Vector UInt8 size :=
    ⟨block.bytes, block.length_bytes⟩
  refine Finite.of_injective toVector ?_
  intro left right same
  exact Block.ext (congrArg Subtype.val same)

/-- Combining with the same block again undoes it. -/
theorem xor_xor_right (left right : Block size) : (left.xor right).xor right = left := by
  apply Block.ext
  apply Bytes.xor_xor_right
  rw [left.length_bytes, right.length_bytes]

end Block

namespace Aes

theorem xor_left_comm (first second third : UInt8) :
    first ^^^ (second ^^^ third) = second ^^^ (first ^^^ third) := by
  rw [← UInt8.xor_assoc, UInt8.xor_comm first, UInt8.xor_assoc]

theorem xor_cancel_left (first second : UInt8) : first ^^^ (first ^^^ second) = second := by
  rw [← UInt8.xor_assoc, UInt8.xor_self, UInt8.zero_xor]

theorem xor_cancel_right (first second : UInt8) : first ^^^ second ^^^ second = first := by
  rw [UInt8.xor_assoc, UInt8.xor_self, UInt8.xor_zero]

theorem substitute_eq (byte : UInt8) :
    substitute byte = substitution.toList.getD byte.toNat 0 := by
  rw [substitute, Array.getD_eq_getD_getElem?, List.getD_eq_getElem?_getD, Array.getElem?_toList]

theorem unsubstitute_eq (byte : UInt8) :
    unsubstitute byte = inverseSubstitution.toList.getD byte.toNat 0 := by
  rw [unsubstitute, Array.getD_eq_getD_getElem?, List.getD_eq_getElem?_getD,
    Array.getElem?_toList]

/-- The entries of one table are the places of the other. -/
theorem map_substitution :
    (substitution.toList.map fun byte =>
      (inverseSubstitution.toList.getD byte.toNat 0).toNat) = List.range 256 := by
  decide +kernel

theorem unsubstitute_substitute (byte : UInt8) : unsubstitute (substitute byte) = byte := by
  have place := List.getElem?_range byte.toNat_lt
  rw [← map_substitution, List.getElem?_map] at place
  obtain ⟨entry, found, same⟩ := Option.map_eq_some_iff.mp place
  rw [substitute_eq, List.getD_eq_getElem?_getD, found, Option.getD_some, unsubstitute_eq]
  exact UInt8.toNat_inj.mp same

/-- The bit that doubling carries out of a byte. -/
theorem carry_cases (byte : UInt8) : byte >>> 7 = 0 ∨ byte >>> 7 = 1 := by
  revert byte
  apply Bytes.forall_byte
  decide +kernel

theorem double_xor (left right : UInt8) :
    double (left ^^^ right) = double left ^^^ double right := by
  have carry : (left >>> 7 ^^^ right >>> 7) * (0x1B : UInt8) =
      (left >>> 7) * (0x1B : UInt8) ^^^ (right >>> 7) * (0x1B : UInt8) := by
    rcases carry_cases left with low | high
    · rw [low, UInt8.zero_xor, UInt8.zero_mul, UInt8.zero_xor]
    · rcases carry_cases right with low | high'
      · rw [low, UInt8.xor_zero, UInt8.zero_mul, UInt8.xor_zero]
      · rw [high, high']
        rfl
  rw [double, double, double, UInt8.shiftLeft_xor, UInt8.shiftRight_xor, carry]
  ac_rfl

namespace Column

theorem unblend_blend (a b c d : UInt8) :
    unblend (blend a b c d) (blend b c d a) (blend c d a b) (blend d a b c) = a := by
  -- Once doubling is pushed to the single bytes, all others occur in pairs.
  simp only [unblend, blend, double_xor, UInt8.xor_assoc, xor_left_comm, UInt8.xor_comm,
    UInt8.xor_self, xor_cancel_left, UInt8.xor_zero]

theorem unmix_mix (column : Column) : column.mix.unmix = column := by
  obtain ⟨a, b, c, d⟩ := column
  simp only [mix, unmix, unblend_blend]

theorem map_unsubstitute (column : Column) :
    (column.map substitute).map unsubstitute = column := by
  simp only [map, unsubstitute_substitute]

theorem xor_xor_right (left right : Column) : (left.xor right).xor right = left := by
  simp only [xor, xor_cancel_right]

end Column

namespace State

theorem map_undo {change undo : Column → Column} (undoes : ∀ column, undo (change column) = column)
    (state : State) : (state.map change).map undo = state := by
  simp only [map, undoes]

theorem unshift_shift (state : State) : state.shift.unshift = state :=
  rfl

theorem xor_xor_right (left right : State) : (left.xor right).xor right = left := by
  simp only [xor, Column.xor_xor_right]

theorem ofBlock_toBlock (state : State) : ofBlock state.toBlock = state :=
  rfl

theorem toBlock_ofBlock (block : Key) : (ofBlock block).toBlock = block := by
  apply Block.ext
  obtain ⟨bytes, length⟩ := block
  match bytes, length with
  | [_, _, _, _, _, _, _, _, _, _, _, _, _, _, _, _], _ => rfl

end State

/-- The rounds are undone, whatever the round keys are. -/
theorem unrounds_rounds (keys : List State) (state : State) :
    unrounds keys (rounds keys state) = state := by
  match keys with
  | [] => rfl
  | [key] =>
      rw [rounds, unrounds, State.xor_xor_right, State.unshift_shift,
        State.map_undo Column.map_unsubstitute]
  | key :: next :: rest =>
      rw [rounds, unrounds, unrounds_rounds (next :: rest)]
      rw [State.xor_xor_right, State.map_undo Column.unmix_mix, State.unshift_shift,
        State.map_undo Column.map_unsubstitute]

/-- Decryption undoes encryption under the same key. -/
theorem decrypt_encrypt (key block : Key) : decrypt key (encrypt key block) = block := by
  rw [decrypt, encrypt]
  rw [State.ofBlock_toBlock, unrounds_rounds, State.xor_xor_right, State.toBlock_ofBlock]

/-- Encryption undoes decryption, since it takes the finitely many blocks to
different ones and so reaches every one of them. -/
theorem encrypt_decrypt (key block : Key) : encrypt key (decrypt key block) = block := by
  have undoes : Function.LeftInverse (decrypt key) (encrypt key) := decrypt_encrypt key
  have onto : Function.Surjective (encrypt key) :=
    Finite.surjective_of_injective undoes.injective
  exact undoes.rightInverse_of_surjective onto block

end Aes

end Gamecard
