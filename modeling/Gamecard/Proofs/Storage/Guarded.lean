import Gamecard.Proofs.Storage.Pages
import Gamecard.Proofs.Storage.Shows
import Gamecard.Storage.Guarded

/-!
# Reads that get past every guard

A buffer has less than half as many bytes as there are words, so that the sums within a
storage in memory are words and stay words when they are rounded up to a page.  Windows
and page adapters over it add nothing that could go wrong: whatever is read from them, a
guarded read comes to what the plain one does.
-/

namespace Gamecard

namespace Guarded

variable {ε δ α β : Type}

@[simp] theorem pure_bind (value : α) (next : α → Guarded ε β) :
    (pure value >>= next) = next value := by
  change andThen (.done (pure value)) next = next value
  simp only [andThen, Access.result_pure, Access.reads_pure, List.nil_append]
  cases next value with
  | stopped => rfl
  | done later => rfl

/-- What goes on without stopping after an access that does not stop. -/
theorem done_bind {access : Access ε α} {next : α → Guarded ε β} {plain : α → Access ε β}
    (later : ∀ value, access.result = .ok value → next value = .done (plain value)) :
    (done access >>= next) = done (access >>= plain) := by
  change andThen (.done access) next = .done (access.andThen plain)
  rw [andThen, Access.andThen]
  cases given : access.result with
  | error error => rfl
  | ok value => simp only [later value given]

/-- What comes of an access if nothing is read after it. -/
theorem done_bind_last {access : Access ε α} {value : α} (given : access.result = .ok value)
    {next : α → Guarded ε β} {result : Except ε β} (last : next value = done ⟨result, []⟩) :
    (done access >>= next) = done ⟨result, access.reads⟩ := by
  change andThen (done access) next = _
  simp only [andThen, given, last, List.append_nil]

/-- What goes on without stopping after a result that is there already. -/
theorem ofExcept_bind {result : Except ε α} {next : α → Guarded ε β} {plain : α → Except ε β}
    (later : ∀ value, next value = ofExcept (plain value)) :
    (ofExcept result >>= next) = ofExcept (result >>= plain) := by
  cases result with
  | error error => rfl
  | ok value =>
      change (pure value >>= next) = ofExcept (plain value)
      rw [pure_bind, later]

@[simp] theorem mapError_done (change : ε → δ) (access : Access ε α) :
    (done access).mapError change = done (access.mapError change) :=
  rfl

@[simp] theorem attempt_done (access : Access ε α) :
    ((done access).attempt : Guarded δ (Except ε α)) = done access.attempt :=
  rfl

theorem lt_wordLimit {number : Nat} (fits : number ≤ roomLimit) : number < wordLimit := by
  simp only [roomLimit, wordLimit] at *
  omega

theorem room_add_lt {left right : Nat} (leftFits : left ≤ roomLimit)
    (rightFits : right ≤ roomLimit) : left + right < wordLimit := by
  simp only [roomLimit, wordLimit] at *
  omega

theorem add_eq {left right : Nat} (fits : left + right < wordLimit) :
    (add left right : Guarded ε Nat) = pure (left + right) :=
  if_pos fits

theorem mul_eq {left right : Nat} (fits : left * right < wordLimit) :
    (mul left right : Guarded ε Nat) = pure (left * right) :=
  if_pos fits

theorem sub_eq {left right : Nat} (fits : right ≤ left) :
    (sub left right : Guarded ε Nat) = pure (left - right) :=
  if_pos fits

theorem room_eq {length : Nat} (fits : length ≤ roomLimit) :
    (room length : Guarded ε Nat) = pure length :=
  if_pos fits

theorem cut_eq {bytes : Bytes} {start stop : Nat} (ordered : start ≤ stop)
    (within : stop ≤ bytes.length) :
    (cut bytes start stop : Guarded ε Bytes) = pure (bytes.slice start (stop - start)) :=
  if_pos ⟨ordered, within⟩

theorem copied_eq {length : Nat} {range : Bytes} (exact : range.length = length) :
    (copied length range : Guarded ε Bytes) = pure range :=
  if_pos exact

/-- The number at the start of a range that a buffer has. -/
theorem number_slice {bytes : Bytes} {start length width : Nat}
    (within : start + length ≤ bytes.length) (long : width ≤ length) :
    (number width (bytes.slice start length) : Guarded ε Nat) =
      pure (bytes.numberAt start width) := by
  have enough : width ≤ (bytes.slice start length).length := by
    rwa [Bytes.length_slice_of_le within]
  rw [number, when, if_pos enough, Bytes.numberAt, Bytes.slice_slice bytes (by omega),
    Nat.add_zero, Bytes.numberAt]

theorem byte_eq {bytes : Bytes} {place : Nat} (within : place < bytes.length) :
    (byte bytes place : Guarded ε UInt8) = pure (bytes.getD place 0) :=
  if_pos within

/-- A range of a buffer, copied. -/
theorem cut_copied {bytes : Bytes} {start length : Nat}
    (within : start + length ≤ bytes.length) :
    (cut bytes start (start + length) >>= copied length : Guarded ε Bytes) =
      pure (bytes.slice start length) := by
  rw [cut_eq (Nat.le_add_right start length) within, pure_bind, Nat.add_sub_cancel_left,
    copied_eq (Bytes.length_slice_of_le within)]

end Guarded

namespace Storage

open Guarded (roomLimit)

/-- Every sum that a read of the storage takes is a word. -/
def InWords : Storage → Prop
  | .memory bytes => bytes.length ≤ roomLimit
  | .file _ size _ => size ≤ roomLimit
  | .window inner start size => inner.InWords ∧ start + size ≤ inner.size
  | .paged inner alignment =>
    inner.InWords ∧ Alignment.isPowerOfTwo alignment = true ∧ alignment ≤ roomLimit

theorem InWords.size_le {storage : Storage} (inWords : storage.InWords) :
    storage.size ≤ roomLimit := by
  induction storage with
  | memory bytes => exact inWords
  | file path size contents => exact inWords
  | window inner start size induction =>
      have below := induction inWords.1
      have fits := inWords.2
      exact Nat.le_trans (Nat.le_of_add_left_le fits) below
  | paged inner alignment induction => exact induction inWords.1

/-- The last block of a cover does not end before it starts. -/
theorem cover_offset_le (alignment : Nat) {size offset length : Nat}
    (within : offset + length ≤ size) :
    Alignment.down offset alignment ≤ min (Alignment.up (offset + length) alignment) size := by
  have first := Alignment.down_le offset alignment
  have last := Alignment.le_up (offset + length) alignment
  omega

theorem cover_eq_iff (alignment : Nat) {size offset length : Nat}
    (within : offset + length ≤ size) :
    cover alignment size offset length = ⟨offset, length⟩ ↔
      Alignment.down offset alignment = offset ∧
        min (Alignment.up (offset + length) alignment) size = offset + length := by
  have ordered := cover_offset_le alignment within
  simp only [cover, Extent.mk.injEq]
  omega

theorem upGuarded_eq {ε : Type} {address alignment : Nat} (addressFits : address ≤ roomLimit)
    (positive : 0 < alignment) (alignmentFits : alignment ≤ roomLimit) :
    (Alignment.upGuarded address alignment : Guarded ε Nat) =
      pure (Alignment.up address alignment) := by
  have word := Guarded.room_add_lt addressFits (Nat.le_trans (Nat.sub_le alignment 1) alignmentFits)
  simp only [Alignment.upGuarded, Alignment.downGuarded, Guarded.sub_eq positive,
    Guarded.pure_bind, Guarded.add_eq word]
  rfl

/-- A range is cut out of the blocks that cover it. -/
theorem cut_cover {ε : Type} {bulk : Bytes} {first offset length : Nat} (before : first ≤ offset)
    (after : offset - first + length ≤ bulk.length) (fits : bulk.length ≤ roomLimit) :
    (do
      let skip ← Guarded.sub offset first
      let range ← Guarded.cut bulk skip (← Guarded.add skip length)
      Guarded.copied length range : Guarded ε Bytes) =
      pure (bulk.slice (offset - first) length) := by
  have word := Guarded.lt_wordLimit (Nat.le_trans after fits)
  rw [Guarded.sub_eq before, Guarded.pure_bind, Guarded.add_eq word, Guarded.pure_bind,
    Guarded.cut_copied after]

/-- Reading whole blocks stops nowhere if reading what is below does not. -/
theorem readGuarded_paged {inner : Storage} (sizeFits : inner.size ≤ roomLimit)
    (below : ∀ offset length, inner.readGuarded offset length = .done (inner.read offset length))
    {alignment : Nat} (positive : 0 < alignment) (alignmentFits : alignment ≤ roomLimit)
    (offset length : Nat) :
    (paged inner alignment).readGuarded offset length =
      .done ((paged inner alignment).read offset length) := by
  rw [readGuarded, read]
  split
  · rfl
  next inside =>
    have within := Nat.not_lt.mp inside
    split
    · rfl
    next wanted =>
      have endFits : offset + length ≤ roomLimit := Nat.le_trans within sizeFits
      have ordered := cover_offset_le alignment within
      simp only [Alignment.downGuarded, Guarded.sub_eq positive, Guarded.pure_bind,
        Guarded.add_eq (Guarded.lt_wordLimit endFits),
        upGuarded_eq endFits positive alignmentFits, ← cover_eq_iff alignment within]
      split
      · exact below offset length
      next rounded =>
        have bulkFits : min (Alignment.up (offset + length) alignment) inner.size -
            Alignment.down offset alignment ≤ roomLimit := by
          omega
        rw [Guarded.sub_eq ordered, Guarded.pure_bind, Guarded.room_eq bulkFits,
          Guarded.pure_bind, below]
        apply Guarded.done_bind
        intro bulk given
        obtain ⟨before, after, -⟩ := cover_contains alignment within
        have counted := length_of_result_read given
        simp only [cover] at before after
        exact cut_cover before (by omega) (by omega)

theorem readGuarded_eq {storage : Storage} (inWords : storage.InWords) (offset length : Nat) :
    storage.readGuarded offset length = .done (storage.read offset length) := by
  induction storage generalizing offset length with
  | memory bytes =>
      simp only [readGuarded, read]
      split
      next within =>
        have word := Guarded.lt_wordLimit (Nat.le_trans within inWords)
        rw [Guarded.add_eq word, Guarded.pure_bind, Guarded.cut_copied within]
        rfl
      · rfl
  | file path size contents => rfl
  | window inner start size induction =>
      rw [readGuarded, read]
      split
      next within =>
        have fits := inWords.2
        have word : start + offset < Guarded.wordLimit := by
          have below := Guarded.lt_wordLimit inWords.1.size_le
          omega
        rw [Guarded.add_eq word, Guarded.pure_bind]
        exact induction inWords.1 _ _
      · rfl
  | paged inner alignment induction =>
      obtain ⟨innerInWords, power, alignmentFits⟩ := inWords
      exact readGuarded_paged innerInWords.size_le (induction innerInWords)
        (Alignment.pos_of_isPowerOfTwo power) alignmentFits offset length

/-- What goes on without stopping with as many bytes as it asks for. -/
theorem readGuarded_bind {δ β : Type} {storage : Storage} (inWords : storage.InWords)
    {offset length : Nat} {change : IoError → δ} {next : Bytes → Guarded δ β}
    {plain : Bytes → Access δ β}
    (later : ∀ bytes, bytes.length = length → next bytes = .done (plain bytes)) :
    ((storage.readGuarded offset length).mapError change >>= next) =
      .done ((storage.read offset length).mapError change >>= plain) := by
  rw [readGuarded_eq inWords, Guarded.mapError_done]
  apply Guarded.done_bind
  intro bytes given
  apply later
  rw [Access.result_mapError] at given
  cases read : (storage.read offset length).result with
  | error error =>
      rw [read] at given
      cases given
  | ok found =>
      rw [read] at given
      cases given
      exact length_of_result_read read

end Storage

end Gamecard
