import Gamecard.Bytes
import Mathlib.Algebra.Group.Nat.Defs

/-!
# Ranges of byte strings

Ranges of ranges, ranges of concatenations, and numbers of a fixed width that
are written and read back.
-/

namespace Gamecard.Bytes

theorem forall_byte {claim : UInt8 → Prop}
    (all : ∀ number : Fin 256, claim (UInt8.ofNat number)) (byte : UInt8) : claim byte := by
  have here := all ⟨byte.toNat, byte.toNat_lt⟩
  rwa [UInt8.ofNat_toNat] at here

theorem slice_zero (length : Nat) (bytes : Bytes) : bytes.slice 0 length = bytes.take length :=
  rfl

@[simp] theorem slice_zero_length (bytes : Bytes) : bytes.slice 0 bytes.length = bytes := by
  simp [slice]

@[simp] theorem slice_length_zero (offset : Nat) (bytes : Bytes) :
    bytes.slice offset 0 = [] := by
  simp [slice]

theorem slice_slice (bytes : Bytes) {start size offset length : Nat}
    (within : offset + length ≤ size) :
    (bytes.slice start size).slice offset length = bytes.slice (start + offset) length := by
  have shorter : min length (size - offset) = length := by omega
  simp only [slice, List.drop_take, List.drop_drop, List.take_take, shorter]

theorem slice_rest (offset : Nat) (bytes : Bytes) :
    bytes.slice offset (bytes.length - offset) = bytes.drop offset := by
  rw [slice, ← List.length_drop, List.take_length]

theorem slice_append_left (left right : Bytes) :
    slice 0 left.length (left ++ right) = left := by
  simp [slice]

theorem slice_append_right {left right : Bytes} {offset : Nat} (past : left.length ≤ offset)
    (length : Nat) :
    slice offset length (left ++ right) = right.slice (offset - left.length) length := by
  rw [slice, slice, List.drop_append, List.drop_eq_nil_of_le past, List.nil_append]

/-- A range after some bytes is read back, whatever follows it. -/
theorem slice_past {before middle : Bytes} {offset length : Nat}
    (place : before.length = offset) (long : middle.length = length) (after : Bytes) :
    slice offset length (before ++ (middle ++ after)) = middle := by
  subst place long
  rw [slice_append_right (Nat.le_refl _), Nat.sub_self, slice_append_left]

theorem slice_append_drop (offset length : Nat) (bytes : Bytes) :
    bytes.slice offset length ++ bytes.drop (offset + length) = bytes.drop offset := by
  rw [slice, ← List.drop_drop, List.take_append_drop]

/-- Within its size a byte string is as it was; what was not there is zero. -/
theorem getD_fit {size index : Nat} (bytes : Bytes) (within : index < size) :
    (bytes.fit size).getD index 0 = bytes.getD index 0 := by
  rw [List.getD_eq_getElem?_getD, List.getD_eq_getElem?_getD, fit]
  by_cases inside : index < bytes.length
  · have kept : index < (bytes.take size).length := by
      rw [List.length_take]
      omega
    rw [List.getElem?_append_left kept, List.getElem?_take_of_lt within]
  · have past : (bytes.take size).length ≤ index := by
      rw [List.length_take]
      omega
    rw [List.getElem?_append_right past, List.getElem?_eq_none (Nat.not_lt.mp inside), zeros,
      List.getElem?_replicate]
    split <;> rfl

theorem fit_take (size : Nat) (bytes : Bytes) :
    fit size (bytes.take size) = bytes.fit size := by
  have missing : size - min size bytes.length = size - bytes.length := by omega
  rw [fit, fit, List.take_take, Nat.min_self, List.length_take, missing]

/-- A number that fits its width is read back as it was written. -/
theorem littleEndian_ofLittleEndian {width value : Nat} (fits : value < 256 ^ width) :
    littleEndian (ofLittleEndian width value) = value := by
  induction width generalizing value with
  | zero =>
      rw [Nat.lt_one_iff.mp fits]
      rfl
  | succ width induction =>
      have later : value / 256 < 256 ^ width := by
        rw [Nat.div_lt_iff_lt_mul (by decide), ← Nat.pow_succ]
        exact fits
      have low : (UInt8.ofNat value).toNat = value % 256 := UInt8.toNat_ofNat
      rw [ofLittleEndian, littleEndian, induction later, low]
      omega

/-- Byte strings of one length that stand for the same number are equal. -/
theorem littleEndian_injective {left right : Bytes} (lengths : left.length = right.length)
    (same : littleEndian left = littleEndian right) : left = right := by
  induction left generalizing right with
  | nil => exact (List.length_eq_zero_iff.mp lengths.symm).symm
  | cons low rest induction =>
      cases right with
      | nil => cases lengths
      | cons otherLow otherRest =>
          have bounded := low.toNat_lt
          have otherBounded := otherLow.toNat_lt
          simp only [littleEndian] at same
          have lows : low.toNat = otherLow.toNat := by omega
          have rests : littleEndian rest = littleEndian otherRest := by omega
          rw [UInt8.toNat_inj.mp lows, induction (Nat.succ.inj lengths) rests]

theorem littleEndian_lt (bytes : Bytes) : littleEndian bytes < 256 ^ bytes.length := by
  induction bytes with
  | nil => exact Nat.one_pos
  | cons byte rest induction =>
      have bounded := byte.toNat_lt
      rw [littleEndian, List.length_cons, Nat.pow_succ]
      omega

theorem numberAt_lt (offset width : Nat) (bytes : Bytes) :
    bytes.numberAt offset width < 256 ^ width := by
  have short : (bytes.slice offset width).length ≤ width := by
    rw [length_slice]
    exact Nat.min_le_left _ _
  exact Nat.lt_of_lt_of_le (littleEndian_lt _) (Nat.pow_le_pow_right (by decide) short)

theorem numberAt_append_left {width value : Nat} (fits : value < 256 ^ width)
    (rest : Bytes) : numberAt 0 width (ofLittleEndian width value ++ rest) = value := by
  have start := slice_append_left (ofLittleEndian width value) rest
  rw [length_ofLittleEndian] at start
  rw [numberAt, start, littleEndian_ofLittleEndian fits]

theorem numberAt_append_right {left right : Bytes} {offset : Nat}
    (past : left.length ≤ offset) (width : Nat) :
    numberAt offset width (left ++ right) = right.numberAt (offset - left.length) width := by
  rw [numberAt, slice_append_right past, numberAt]

/-- A number after some bytes is read back, whatever follows it. -/
theorem numberAt_past {before : Bytes} {offset width value : Nat}
    (place : before.length = offset) (fits : value < 256 ^ width) (after : Bytes) :
    numberAt offset width (before ++ (ofLittleEndian width value ++ after)) =
      value := by
  rw [numberAt_append_right (Nat.le_of_eq place), place, Nat.sub_self]
  exact numberAt_append_left fits after

theorem pieces_append {size : Nat} {piece : Bytes} (exact : piece.length = size)
    (count : Nat) (rest : Bytes) :
    pieces size (count + 1) (piece ++ rest) = piece :: pieces size count rest := by
  subst exact
  simp [pieces]

theorem slice_drop (start offset length : Nat) (bytes : Bytes) :
    slice offset length (bytes.drop start) = bytes.slice (start + offset) length := by
  rw [slice, slice, List.drop_drop]

theorem slice_take (bytes : Bytes) {offset length size : Nat}
    (within : offset + length ≤ size) :
    slice offset length (bytes.take size) = bytes.slice offset length := by
  rw [← slice_zero, slice_slice bytes within, Nat.zero_add]

/-- The pieces are the ranges that follow each other. -/
theorem pieces_eq_map (size count : Nat) (bytes : Bytes) :
    pieces size count bytes =
      (List.range count).map fun index => bytes.slice (index * size) size := by
  induction count generalizing bytes with
  | zero => rfl
  | succ count induction =>
      rw [pieces, induction, List.range_succ_eq_map, List.map_cons, List.map_map]
      congr 1
      · rw [Nat.zero_mul, slice_zero]
      · apply List.map_congr_left
        intro index _
        rw [Function.comp_apply, slice_drop, Nat.succ_mul, Nat.add_comm]

/-- The pieces do not see what follows the last of them. -/
theorem pieces_take (size count : Nat) (bytes : Bytes) :
    pieces size count (bytes.take (count * size)) = pieces size count bytes := by
  rw [pieces_eq_map, pieces_eq_map]
  apply List.map_congr_left
  intro index member
  apply slice_take
  rw [← Nat.succ_mul]
  exact Nat.mul_le_mul_right size (List.mem_range.mp member)

theorem length_of_mem_pieces {size count : Nat} {bytes piece : Bytes}
    (enough : count * size ≤ bytes.length) (member : piece ∈ pieces size count bytes) :
    piece.length = size := by
  rw [pieces_eq_map] at member
  obtain ⟨index, inRange, rfl⟩ := List.mem_map.mp member
  apply length_slice_of_le
  rw [← Nat.succ_mul]
  exact Nat.le_trans (Nat.mul_le_mul_right size (List.mem_range.mp inRange)) enough

/-- Combining with the same bytes again undoes it. -/
theorem xor_xor_right {left right : Bytes} (covered : left.length ≤ right.length) :
    (left.xor right).xor right = left := by
  induction left generalizing right with
  | nil => rfl
  | cons byte rest induction =>
      cases right with
      | nil => cases covered
      | cons mask masks =>
          have head : byte ^^^ mask ^^^ mask = byte := by
            rw [UInt8.xor_assoc, UInt8.xor_self, UInt8.xor_zero]
          have tail : Bytes.xor (Bytes.xor rest masks) masks = rest :=
            induction (Nat.le_of_succ_le_succ covered)
          simp only [Bytes.xor] at tail ⊢
          rw [List.zipWith_cons_cons, List.zipWith_cons_cons, head, tail]

end Gamecard.Bytes
