import Gamecard.Proofs.Storage.Pages
import Gamecard.Proofs.Storage.Shows
import Mathlib.Order.Bounds.Basic

/-!
# The least cover in pages

A page adapter reads the storage below it once, from the last page that starts at or
before the wanted range to the first that ends at or behind it, or to the end of the
storage.  Where nothing is wanted, or more than there is, it does not read at all.  A
range that is its own cover is read directly, which comes to the same.  The boundaries
are computed with masks on words of sixty-four bits, which are large enough for storages
and pages of up to half that range.
-/

namespace Gamecard

namespace Alignment

section Words

variable {address alignment : UInt64}

/-- The address without the bits below the alignment, by a mask. -/
def downWord (address alignment : UInt64) : UInt64 :=
  address &&& ~~~(alignment - 1)

/-- The address raised and rounded down, as words. -/
def upWord (address alignment : UInt64) : UInt64 :=
  downWord (address + (alignment - 1)) alignment

/-- What a mask takes and what it leaves add up to the word. -/
theorem toNat_and_add_and_not (word mask : UInt64) :
    (word &&& mask).toNat + (word &&& ~~~mask).toNat = word.toNat := by
  let taken := word.toBitVec &&& mask.toBitVec
  let left := word.toBitVec &&& ~~~mask.toBitVec
  have apart : taken &&& left = 0#64 := by
    ext index inside
    simp only [taken, left, BitVec.getElem_and, BitVec.getElem_not]
    cases mask.toBitVec[index] <;> simp
  have whole : taken ||| left = word.toBitVec := by
    ext index inside
    simp only [taken, left, BitVec.getElem_or, BitVec.getElem_and, BitVec.getElem_not]
    cases mask.toBitVec[index] <;> simp
  have sum := BitVec.add_eq_or_of_and_eq_zero taken left apart
  have numbers := BitVec.toNat_add_of_and_eq_zero apart
  rw [sum, whole] at numbers
  exact numbers.symm

theorem toNat_pred (positive : alignment ≠ 0) :
    (alignment - 1).toNat = alignment.toNat - 1 := by
  apply UInt64.toNat_sub_of_le
  have nonzero : alignment.toNat ≠ 0 := by
    simpa [← UInt64.toNat_inj] using positive
  exact UInt64.le_iff_toNat_le.mpr (Nat.one_le_iff_ne_zero.mpr nonzero)

theorem toNat_downWord (positive : alignment ≠ 0) :
    (downWord address alignment).toNat = down address.toNat alignment.toNat := by
  have parts := toNat_and_add_and_not address (alignment - 1)
  rw [UInt64.toNat_and, toNat_pred positive] at parts
  simp only [downWord, down]
  omega

theorem toNat_upWord (positive : alignment ≠ 0)
    (fits : address.toNat + (alignment.toNat - 1) < 2 ^ 64) :
    (upWord address alignment).toNat = up address.toNat alignment.toNat := by
  have raised : (address + (alignment - 1)).toNat = address.toNat + (alignment.toNat - 1) := by
    rw [UInt64.toNat_add, toNat_pred positive, Nat.mod_eq_of_lt fits]
  rw [upWord, toNat_downWord positive, raised, up]

end Words

variable {alignment : Nat}

/-- Rounding down gives the greatest multiple that is not above the address. -/
theorem isGreatest_down (power : isPowerOfTwo alignment = true) (address : Nat) :
    IsGreatest {page | alignment ∣ page ∧ page ≤ address} (down address alignment) := by
  refine ⟨⟨dvd_down power address, down_le address alignment⟩, ?_⟩
  rintro page ⟨⟨count, rfl⟩, below⟩
  have fewer : count ≤ address / alignment :=
    (Nat.le_div_iff_mul_le (pos_of_isPowerOfTwo power)).mpr (by rwa [Nat.mul_comm])
  have parts := Nat.div_add_mod address alignment
  have smaller := Nat.mul_le_mul_left alignment fewer
  simp only [down, and_eq_mod power]
  omega

/-- Rounding up gives the least multiple that is not below the address. -/
theorem isLeast_up (power : isPowerOfTwo alignment = true) (address : Nat) :
    IsLeast {page | alignment ∣ page ∧ address ≤ page} (up address alignment) := by
  refine ⟨⟨dvd_up power address, le_up address alignment⟩, ?_⟩
  rintro page ⟨⟨count, rfl⟩, above⟩
  have positive := pos_of_isPowerOfTwo power
  have bounded : up address alignment ≤ address + (alignment - 1) := down_le _ _
  obtain ⟨raised, same⟩ := dvd_up power address
  apply Nat.not_lt.mp
  intro beyond
  -- A greater multiple would be a whole page further.
  have further : count < raised := by
    apply Nat.lt_of_mul_lt_mul_left
    rw [← same]
    exact beyond
  have page := Nat.mul_le_mul_left alignment (Nat.succ_le_of_lt further)
  rw [← same, Nat.mul_succ] at page
  omega

end Alignment

namespace Storage

/-- One read, and of the bytes that it gives those that were wanted. -/
def readCut (below : Nat → Nat → Access IoError Bytes) (block : Extent)
    (offset length : Nat) : Access IoError Bytes := do
  let bytes ← below block.offset block.length
  pure (bytes.slice (offset - block.offset) length)

/-- What a page adapter does on top of anything of this size that is read like this. -/
def readInPages (below : Nat → Nat → Access IoError Bytes) (size alignment offset length : Nat) :
    Access IoError Bytes :=
  if size < offset + length then .fail (.pastEnd length offset size)
  else if length = 0 then pure []
  else
    let block := cover alignment size offset length
    if block = ⟨offset, length⟩ then below offset length
    else readCut below block offset length

theorem read_paged (inner : Storage) (alignment : Nat) :
    (paged inner alignment).read = readInPages inner.read inner.size alignment :=
  rfl

/-- A read of the storage, noted as what it asks the storage itself for. -/
def readNoted (storage : Storage) (offset length : Nat) : Access IoError Bytes where
  result := (storage.read offset length).result
  reads := [⟨offset, length⟩]

/-- What a page adapter on top of the storage asks it for. -/
def askedInPages (storage : Storage) (alignment offset length : Nat) : List Extent :=
  (readInPages storage.readNoted storage.size alignment offset length).reads

/-- Reads give as many bytes as they are asked for. -/
def Fills (below : Nat → Nat → Access IoError Bytes) : Prop :=
  ∀ offset length bytes, (below offset length).result = .ok bytes → bytes.length = length

theorem fills_read (storage : Storage) : Fills storage.read :=
  fun _ _ _ given => length_of_result_read given

theorem fills_readNoted (storage : Storage) : Fills storage.readNoted :=
  fun _ _ _ given => length_of_result_read given

variable {below : Nat → Nat → Access IoError Bytes} {size alignment offset length : Nat}

/-- Cutting out all that was read changes nothing. -/
theorem readCut_self (fills : Fills below) (offset length : Nat) :
    readCut below ⟨offset, length⟩ offset length = below offset length := by
  cases access : below offset length with
  | mk result reads =>
      cases result with
      | error error =>
          simp only [readCut, access]
          rfl
      | ok bytes =>
          have exact : bytes.length = length := fills offset length bytes (by rw [access])
          have whole : bytes.slice 0 length = bytes := by
            rw [← exact, Bytes.slice_zero_length]
          simp only [readCut, access, Nat.sub_self]
          change Access.mk (.ok (bytes.slice 0 length)) (reads ++ []) = _
          simp only [whole, List.append_nil]

theorem readInPages_within (fills : Fills below) (within : offset + length ≤ size)
    (wanted : length ≠ 0) :
    readInPages below size alignment offset length =
      readCut below (cover alignment size offset length) offset length := by
  simp only [readInPages, if_neg (Nat.not_lt.mpr within), if_neg wanted]
  split
  next whole => rw [whole, readCut_self fills]
  next => rfl

theorem reads_readCut_readNoted (storage : Storage) (block : Extent) :
    (readCut storage.readNoted block offset length).reads = [block] := by
  simp only [readCut, Access.reads_bind, readNoted]
  split <;> rfl

section Words

variable {alignment size offset length : UInt64}

/-- The cover, computed on words. -/
def coverWords (alignment size offset length : UInt64) : Extent :=
  let first := Alignment.downWord offset alignment
  let last := min (Alignment.upWord (offset + length) alignment) size
  ⟨first.toNat, (last - first).toNat⟩

theorem toNat_min (left right : UInt64) :
    (min left right).toNat = min left.toNat right.toNat := by
  change (if left ≤ right then left else right).toNat = _
  by_cases smaller : left ≤ right
  · have numbers := UInt64.le_iff_toNat_le.mp smaller
    simp only [if_pos smaller, Nat.min_eq_left numbers]
  · have numbers : right.toNat ≤ left.toNat :=
      Nat.le_of_not_le (mt UInt64.le_iff_toNat_le.mpr smaller)
    simp only [if_neg smaller, Nat.min_eq_right numbers]

/-- Words are large enough as long as the end of the range can be raised. -/
theorem coverWords_eq (positive : alignment ≠ 0)
    (within : offset.toNat + length.toNat ≤ size.toNat)
    (fits : offset.toNat + length.toNat + (alignment.toNat - 1) < 2 ^ 64) :
    coverWords alignment size offset length =
      cover alignment.toNat size.toNat offset.toNat length.toNat := by
  have sum : (offset + length).toNat = offset.toNat + length.toNat := by
    rw [UInt64.toNat_add, Nat.mod_eq_of_lt]
    omega
  have first : (Alignment.downWord offset alignment).toNat =
      Alignment.down offset.toNat alignment.toNat := Alignment.toNat_downWord positive
  have last : (min (Alignment.upWord (offset + length) alignment) size).toNat =
      min (Alignment.up (offset.toNat + length.toNat) alignment.toNat) size.toNat := by
    rw [toNat_min, Alignment.toNat_upWord positive (by rwa [sum]), sum]
  have ordered : Alignment.downWord offset alignment ≤
      min (Alignment.upWord (offset + length) alignment) size := by
    rw [UInt64.le_iff_toNat_le, first, last]
    have lower := Alignment.down_le offset.toNat alignment.toNat
    have upper := Alignment.le_up (offset.toNat + length.toNat) alignment.toNat
    omega
  simp only [coverWords, cover, UInt64.toNat_sub_of_le _ _ ordered, first, last]

end Words

theorem coverWords_ofNat (power : Alignment.isPowerOfTwo alignment = true)
    (alignmentFits : alignment ≤ 2 ^ 63) (sizeFits : size < 2 ^ 63)
    (within : offset + length ≤ size) :
    coverWords (.ofNat alignment) (.ofNat size) (.ofNat offset) (.ofNat length) =
      cover alignment size offset length := by
  have same (number : Nat) (small : number ≤ 2 ^ 63) : (UInt64.ofNat number).toNat = number := by
    apply UInt64.toNat_ofNat_of_lt'
    simp only [UInt64.size]
    omega
  have alignmentSame := same alignment alignmentFits
  have sizeSame := same size (by omega)
  have offsetSame := same offset (by omega)
  have lengthSame := same length (by omega)
  have positive : UInt64.ofNat alignment ≠ 0 := by
    intro zero
    have none := Alignment.pos_of_isPowerOfTwo power
    rw [← alignmentSame, zero] at none
    exact Nat.lt_irrefl 0 none
  rw [coverWords_eq positive, alignmentSame, sizeSame, offsetSame, lengthSame]
  · rwa [offsetSame, lengthSame, sizeSame]
  · rw [offsetSame, lengthSame, alignmentSame]
    omega

/-- A page adapter reads what lies below it once, and no more than the pages of the range:
from the greatest boundary at or before it to the least one at or behind it, unless the
storage ends before.  It does not read at all when nothing is wanted or when the range
leaves the storage.  The way without a copy makes the same read and gives the same bytes.
The boundaries come out the same on words of sixty-four bits. -/
theorem paged_reads_leastCover {alignment : Nat}
    (power : Alignment.isPowerOfTwo alignment = true) (alignmentFits : alignment ≤ 2 ^ 63)
    {inner : Storage} (sizeFits : inner.size < 2 ^ 63) (offset length : Nat) :
    (paged inner alignment).read = readInPages inner.read inner.size alignment ∧
    (inner.size < offset + length →
      (paged inner alignment).read offset length = .fail (.pastEnd length offset inner.size) ∧
        inner.askedInPages alignment offset length = []) ∧
    (offset ≤ inner.size →
      (paged inner alignment).read offset 0 = pure [] ∧
        inner.askedInPages alignment offset 0 = []) ∧
    (length ≠ 0 → offset + length ≤ inner.size → ∃ first last,
      IsGreatest {page | alignment ∣ page ∧ page ≤ offset} first ∧
        IsLeast {page | alignment ∣ page ∧ offset + length ≤ page} last ∧
        coverWords (.ofNat alignment) (.ofNat inner.size) (.ofNat offset) (.ofNat length) =
          ⟨first, min last inner.size - first⟩ ∧
        inner.askedInPages alignment offset length =
          [⟨first, min last inner.size - first⟩] ∧
        (paged inner alignment).read offset length =
          readCut inner.read ⟨first, min last inner.size - first⟩ offset length ∧
        (first = offset → min last inner.size = offset + length →
          readCut inner.read ⟨first, min last inner.size - first⟩ offset length =
            inner.read offset length)) := by
  refine ⟨read_paged inner alignment, ?beyond, ?empty, ?within⟩
  case beyond =>
    intro beyond
    simp only [read_paged, askedInPages, readInPages, if_pos beyond, Access.reads_fail,
      and_self]
  case empty =>
    intro inside
    simp only [read_paged, askedInPages, readInPages, Nat.add_zero,
      if_neg (Nat.not_lt.mpr inside), if_true, Access.reads_pure, and_self]
  case within =>
    intro wanted within
    refine ⟨Alignment.down offset alignment, Alignment.up (offset + length) alignment,
      Alignment.isGreatest_down power offset, Alignment.isLeast_up power _, ?_, ?_, ?_, ?_⟩
    · exact coverWords_ofNat power alignmentFits sizeFits within
    · rw [askedInPages, readInPages_within inner.fills_readNoted within wanted,
        reads_readCut_readNoted]
      rfl
    · rw [read_paged, readInPages_within inner.fills_read within wanted]
      rfl
    · intro start finish
      rw [start, finish, Nat.add_sub_cancel_left]
      exact readCut_self inner.fills_read offset length

/-- One byte in the last page of a window, which ends before the page does. -/
theorem paged_reads_leastCover_tail :
    (window (memory [0, 1, 2, 3, 4, 5, 6, 7]) 1 7).askedInPages 4 5 1 = [⟨4, 3⟩] ∧
      (paged (window (memory [0, 1, 2, 3, 4, 5, 6, 7]) 1 7) 4).read 5 1 =
        ⟨.ok [6], [⟨5, 3⟩]⟩ := by
  have power : Alignment.isPowerOfTwo 4 = true := rfl
  have sizeFits : (window (memory [0, 1, 2, 3, 4, 5, 6, 7]) 1 7).size < 2 ^ 63 := by
    simp [Storage.size]
  obtain ⟨-, -, -, within⟩ := paged_reads_leastCover power (by simp) sizeFits 5 1
  obtain ⟨first, last, greatest, least, -, asked, read, -⟩ :=
    within (by simp) (by simp [Storage.size])
  have four : first = 4 := greatest.unique (Alignment.isGreatest_down power 5)
  have eight : last = 8 := least.unique (Alignment.isLeast_up power 6)
  subst four eight
  exact ⟨asked, read⟩

end Storage

end Gamecard
