import Gamecard.Proofs.Storage.Positions

/-!
# Reading until nothing comes

Whoever wants all of a storage reads into one buffer after another until a read gives
nothing, and keeps what each buffer got.  There is at most one way for this to end.  It
does end at a position of a storage that shows bytes, as long as no buffer is empty: a
read short of the end gives something, so what is left becomes less.  What was kept is
everything from the position on, whatever the sizes of the buffers were.
-/

namespace Gamecard

namespace Reader

/-- Reads into the buffers from number `index` on give these pieces, and then a read
gives nothing. -/
inductive Drains (buffers : Nat → Bytes) : Nat → Reader → List Bytes → Prop where
  | done {index : Nat} {reader : Reader} {filled : Filled} :
      (reader.nextInto (buffers index)).result = .ok filled → filled.count = 0 →
      Drains buffers index reader []
  | more {index : Nat} {reader : Reader} {filled : Filled} {pieces : List Bytes} :
      (reader.nextInto (buffers index)).result = .ok filled → filled.count ≠ 0 →
      Drains buffers (index + 1) (reader.nextInto (buffers index)).reader pieces →
      Drains buffers index reader (filled.buffer.take filled.count :: pieces)

variable {buffers : Nat → Bytes} {index : Nat} {reader : Reader} {pieces : List Bytes}

theorem Drains.unique {others : List Bytes} (drains : Drains buffers index reader pieces)
    (again : Drains buffers index reader others) : others = pieces := by
  induction drains generalizing others with
  | done given nothing =>
      cases again with
      | done => rfl
      | more other something =>
          cases given.symm.trans other
          exact absurd nothing something
  | more given something rest induction =>
      cases again with
      | done other nothing =>
          cases given.symm.trans other
          exact absurd nothing something
      | more other _ otherRest =>
          cases given.symm.trans other
          rw [induction otherRest]

/-- What a read into a buffer gives is what reading as many bytes hands out. -/
theorem next_of_nextInto {buffer : Bytes} {filled : Filled}
    (given : (reader.nextInto buffer).result = .ok filled) :
    (reader.next buffer.length).result = .ok (filled.buffer.take filled.count) ∧
      (reader.next buffer.length).reader = (reader.nextInto buffer).reader ∧
      (filled.buffer.take filled.count).length = filled.count := by
  cases read : (reader.next buffer.length).result with
  | error error =>
      rw [nextInto_of_eq_error read] at given
      cases given
  | ok bytes =>
      rw [nextInto_of_eq_ok read] at given ⊢
      cases given
      simp

/-- A loop that may go on for long enough collects the pieces, whatever is read. -/
theorem Drains.collect {calls : Nat} (drains : Drains buffers index reader pieces)
    (enough : pieces.length < calls) :
    (collect (fun number => (buffers number).length) index calls reader).bytes =
        pieces.flatten ∧
      (collect (fun number => (buffers number).length) index calls reader).failure = none := by
  induction drains generalizing calls with
  | done given nothing =>
      obtain ⟨read, -, -⟩ := next_of_nextInto given
      cases calls with
      | zero => cases enough
      | succ calls => simp [Reader.collect, read, nothing]
  | @more index reader filled pieces given something rest induction =>
      obtain ⟨read, moved, counted⟩ := next_of_nextInto given
      have some_given : (filled.buffer.take filled.count).isEmpty = false := by
        rw [List.isEmpty_eq_false_iff, ← List.length_pos_iff, counted]
        exact Nat.pos_of_ne_zero something
      cases calls with
      | zero => cases enough
      | succ calls =>
          obtain ⟨laterBytes, laterFailure⟩ := induction (Nat.lt_of_succ_lt_succ enough)
          simp [Reader.collect, read, moved, some_given, laterBytes, laterFailure]

/-- A whole storage is read by such a loop, with buffers of one size. -/
theorem Drains.contents {storage : Storage}
    (drains : Drains buffers 0 (start storage) pieces)
    (sized : ∀ number, (buffers number).length = Storage.copyLength)
    (few : pieces.length ≤ storage.size) : storage.contents.result = .ok pieces.flatten := by
  obtain ⟨whole, finished⟩ := drains.collect (Nat.lt_succ_of_le few)
  simp only [sized] at whole finished
  simp only [Storage.contents, Storage.collected, Collected.access, whole, finished]

end Reader

namespace Storage.Shows

open Reader (Drains)

variable {storage : Storage} {bytes : Bytes} {buffers : Nat → Bytes}

/-- Reading until nothing comes gives what follows the position, and takes no more reads
that give something than there are bytes left. -/
theorem exists_drains (shows : storage.Shows bytes) (filling : ∀ index, buffers index ≠ [])
    (index : Nat) {position : Nat} (inside : position ≤ bytes.length) :
    ∃ pieces, Drains buffers index ⟨storage, position⟩ pieces ∧
      pieces.flatten = bytes.drop position ∧ pieces.length ≤ bytes.length - position := by
  induction left : bytes.length - position using Nat.strongRecOn generalizing index position with
  | ind left induction =>
  have wanted : 0 < (buffers index).length := List.length_pos_iff.mpr (filling index)
  let count := min (buffers index).length (bytes.length - position)
  have counted : count = min (buffers index).length (bytes.length - position) := rfl
  obtain ⟨given, moved⟩ := shows.nextInto_within inside (buffers index) counted
  by_cases nothing : count = 0
  · have atEnd : bytes.length ≤ position := by omega
    exact ⟨[], .done given nothing, by simp [List.drop_of_length_le atEnd], Nat.zero_le _⟩
  · obtain ⟨pieces, drains, whole, few⟩ :=
      induction (bytes.length - (position + count)) (by omega) (index + 1) (by omega) rfl
    have piece : (bytes.slice position count ++ (buffers index).drop count).take count =
        bytes.slice position count :=
      List.take_left' (Bytes.length_slice_of_le (by omega))
    refine ⟨_, .more given nothing (moved ▸ drains), ?_, ?_⟩
    · rw [List.flatten_cons, piece, whole, Bytes.slice, ← List.drop_drop,
        List.take_append_drop]
    · simp only [List.length_cons]
      omega

end Storage.Shows

end Gamecard
