import Gamecard.Proofs.Storage.Positions

/-!
# Seeking in exact arithmetic

Positions and distances are words of sixty-four bits, the distances with a sign.  A seek
looks at the sign and takes off or adds what the word stands for.  The outcome is that of
the sum in the integers: the seek leads there if it is a position, and fails otherwise.
This holds wherever a run of seeks and reads has led the reader, since no operation
leaves the range of positions, and one that fails might as well not have been there.
-/

namespace Gamecard

namespace Reader

section Words

variable {base : UInt64} {offset : Int64}

/-- A distance ahead is the number that its bits stand for. -/
theorem toNat_ahead (ahead : ¬offset < 0) :
    (offset.toUInt64.toNat : Int) = offset.toInt := by
  have signed := BitVec.toInt_eq_toNat_cond offset.toBitVec
  have nonnegative : 0 ≤ offset.toBitVec.toInt := by
    simpa [Int64.lt_iff_toInt_lt] using ahead
  change (offset.toBitVec.toNat : Int) = offset.toBitVec.toInt
  have bounded := offset.toBitVec.isLt
  split at signed
  · exact signed.symm
  · omega

/-- Negated, a distance back is the number that its bits stand for, also the farthest one,
whose negation has no sign to spare. -/
theorem toNat_back (back : offset < 0) :
    ((-offset).toUInt64.toNat : Int) = -offset.toInt := by
  have signed := BitVec.toInt_eq_toNat_cond offset.toBitVec
  have negative : offset.toBitVec.toInt < 0 := by
    simpa [Int64.lt_iff_toInt_lt] using back
  have negated : (-offset).toUInt64.toNat = (2 ^ 64 - offset.toBitVec.toNat) % 2 ^ 64 :=
    BitVec.toNat_neg offset.toBitVec
  change ((-offset).toUInt64.toNat : Int) = -offset.toBitVec.toInt
  have bounded := offset.toBitVec.isLt
  split at signed
  · omega
  · omega

theorem moveWord?_back (back : offset < 0) :
    moveWord? base offset =
      if (-offset).toUInt64 ≤ base then some (base - (-offset).toUInt64) else none :=
  if_pos back

theorem moveWord?_ahead (ahead : ¬offset < 0) :
    moveWord? base offset =
      if base ≤ base + offset.toUInt64 then some (base + offset.toUInt64) else none :=
  if_neg ahead

/-- The moved position is the sum in the integers, if there is such a position. -/
theorem moveWord?_eq_some_iff {target : UInt64} :
    moveWord? base offset = some target ↔
      (target.toNat : Int) = base.toNat + offset.toInt := by
  by_cases back : offset < 0
  · have distance := toNat_back back
    rw [moveWord?_back back]
    by_cases enough : (-offset).toUInt64 ≤ base
    · have difference := UInt64.toNat_sub_of_le base (-offset).toUInt64 enough
      have smaller := UInt64.le_iff_toNat_le.mp enough
      simp only [if_pos enough, Option.some.injEq, ← UInt64.toNat_inj]
      omega
    · have greater : base.toNat < (-offset).toUInt64.toNat := by
        simpa [UInt64.le_iff_toNat_le] using enough
      simp only [if_neg enough, reduceCtorEq, false_iff]
      omega
  · have distance := toNat_ahead back
    have wrapped := UInt64.toNat_add base offset.toUInt64
    have baseBounded := base.toNat_lt
    have targetBounded := target.toNat_lt
    have distanceBounded := offset.toUInt64.toNat_lt
    rw [moveWord?_ahead back]
    by_cases within : base ≤ base + offset.toUInt64
    · have smaller := UInt64.le_iff_toNat_le.mp within
      simp only [if_pos within, Option.some.injEq, ← UInt64.toNat_inj]
      omega
    · have greater : (base + offset.toUInt64).toNat < base.toNat := by
        simpa [UInt64.le_iff_toNat_le] using within
      simp only [if_neg within, reduceCtorEq, false_iff]
      omega

end Words

/-- The first distance that is too far ahead.  The farthest one back is as far away. -/
def distanceLimit : Int := 0x8000000000000000

def IsDistance (offset : Int) : Prop :=
  -distanceLimit ≤ offset ∧ offset < distanceLimit

def IsPosition (target : Int) : Prop :=
  0 ≤ target ∧ target < positionLimit

theorem moveWord?_ofNat_ofInt {base : Nat} {offset : Int} (baseFits : base < positionLimit)
    (offsetFits : IsDistance offset) (target : UInt64) :
    moveWord? (.ofNat base) (.ofInt offset) = some target ↔
      (target.toNat : Int) = base + offset := by
  have baseSame : (UInt64.ofNat base).toNat = base := UInt64.toNat_ofNat_of_lt' baseFits
  have offsetSame : (Int64.ofInt offset).toInt = offset :=
    Int64.toInt_ofInt_of_le offsetFits.1 offsetFits.2
  simp only [moveWord?_eq_some_iff, baseSame, offsetSame]

theorem move?_of_isPosition {base : Nat} {offset : Int} (baseFits : base < positionLimit)
    (offsetFits : IsDistance offset) (reached : IsPosition (base + offset)) :
    move? base offset = .ok (base + offset).toNat := by
  have exact : (UInt64.ofNat (base + offset).toNat).toNat = (base + offset).toNat := by
    apply UInt64.toNat_ofNat_of_lt'
    have bounded := reached.2
    simp only [positionLimit] at bounded
    simp only [UInt64.size]
    omega
  have moved : moveWord? (.ofNat base) (.ofInt offset) =
      some (.ofNat (base + offset).toNat) := by
    apply (moveWord?_ofNat_ofInt baseFits offsetFits _).mpr
    rw [exact]
    exact Int.toNat_of_nonneg reached.1
  simp only [move?, moved, exact]

theorem move?_of_not_isPosition {base : Nat} {offset : Int} (baseFits : base < positionLimit)
    (offsetFits : IsDistance offset) (missed : ¬IsPosition (base + offset)) :
    move? base offset = .error .unreachable := by
  have nowhere : moveWord? (.ofNat base) (.ofInt offset) = none := by
    rw [Option.eq_none_iff_forall_ne_some]
    intro target moved
    have sum := (moveWord?_ofNat_ofInt baseFits offsetFits target).mp moved
    apply missed
    rw [← sum]
    have bounded : target.toNat < positionLimit := target.toNat_lt
    exact ⟨Int.natCast_nonneg _, Int.ofNat_lt.mpr bounded⟩
  simp only [move?, nowhere]

end Reader

namespace Seek

/-- What can be asked for: a position, or a distance. -/
def InRange : Seek → Prop
  | .start position => position < Reader.positionLimit
  | .current offset => Reader.IsDistance offset
  | .fromEnd offset => Reader.IsDistance offset

/-- Where a seek leads in the integers, from a position of a storage of this size. -/
def target (position size : Nat) : Seek → Int
  | .start position => position
  | .current offset => position + offset
  | .fromEnd offset => size + offset

end Seek

namespace Reader

variable {storage : Storage} {position : Nat}

theorem seek_of_isPosition (sizeFits : storage.size < positionLimit)
    (positionFits : position < positionLimit) {seek : Seek} (inRange : seek.InRange)
    (reached : IsPosition (seek.target position storage.size)) :
    (Reader.mk storage position).seek seek =
      ⟨⟨.ok (seek.target position storage.size).toNat, []⟩,
        ⟨storage, (seek.target position storage.size).toNat⟩⟩ := by
  cases seek with
  | start target => rfl
  | current offset =>
      exact moveFrom_of_eq_ok (move?_of_isPosition positionFits inRange reached) _
  | fromEnd offset =>
      exact moveFrom_of_eq_ok (move?_of_isPosition sizeFits inRange reached) _

theorem seek_of_not_isPosition (sizeFits : storage.size < positionLimit)
    (positionFits : position < positionLimit) {seek : Seek} (inRange : seek.InRange)
    (missed : ¬IsPosition (seek.target position storage.size)) :
    (Reader.mk storage position).seek seek =
      ⟨⟨.error .unreachable, []⟩, ⟨storage, position⟩⟩ := by
  cases seek with
  | start target =>
      exact absurd ⟨Int.natCast_nonneg target, Int.ofNat_lt.mpr inRange⟩ missed
  | current offset =>
      exact moveFrom_of_eq_error (move?_of_not_isPosition positionFits inRange missed) _
  | fromEnd offset =>
      exact moveFrom_of_eq_error (move?_of_not_isPosition sizeFits inRange missed) _

/-- Nothing moves before it is known whether there is such a position. -/
theorem reader_of_moveFrom_error {base : Nat} {offset : Int} {reader : Reader}
    {error : IoError} (failed : (moveFrom base offset reader).result = .error error) :
    (moveFrom base offset reader).reader = reader := by
  cases moved : move? base offset with
  | error other => rw [moveFrom_of_eq_error moved]
  | ok target =>
      rw [moveFrom_of_eq_ok moved] at failed
      cases failed

theorem reader_of_seek_error {reader : Reader} {target : Seek} {error : IoError}
    (failed : (reader.seek target).result = .error error) :
    (reader.seek target).reader = reader := by
  cases target with
  | start position => cases failed
  | current offset => exact reader_of_moveFrom_error failed
  | fromEnd offset => exact reader_of_moveFrom_error failed

/-- A read moves on only after the storage has given what was asked for. -/
theorem reader_of_nextInto_error {reader : Reader} {buffer : Bytes} {error : IoError}
    (failed : (reader.nextInto buffer).result = .error error) :
    (reader.nextInto buffer).reader = reader := by
  cases given : (reader.storage.read reader.position
      (reader.available buffer.length)).result with
  | error other =>
      have refused := next_of_eq_error given
      rw [nextInto_of_eq_error (by rw [refused]), refused]
  | ok bytes =>
      rw [nextInto_of_eq_ok (by rw [next_of_eq_ok given])] at failed
      cases failed

/-- A read that gives something moves on by as much, and not past the end. -/
theorem reader_of_nextInto {buffer : Bytes} {filled : Filled}
    (given : ((Reader.mk storage position).nextInto buffer).result = .ok filled) :
    ((Reader.mk storage position).nextInto buffer).reader =
        ⟨storage, position + filled.count⟩ ∧
      position + filled.count ≤ max position storage.size := by
  cases read : (storage.read position
      ((Reader.mk storage position).available buffer.length)).result with
  | error error =>
      have refused : (Reader.mk storage position).next buffer.length = _ :=
        next_of_eq_error read
      rw [nextInto_of_eq_error (by rw [refused])] at given
      cases given
  | ok bytes =>
      have handed : (Reader.mk storage position).next buffer.length = _ := next_of_eq_ok read
      have length := Storage.length_of_result_read read
      rw [nextInto_of_eq_ok (by rw [handed])] at given ⊢
      cases given
      rw [handed, length]
      refine ⟨rfl, ?_⟩
      simp only [available]
      omega

/-- The seek has the outcome of an exact sum: if the sum is a position, it is the result
and the reader is there, and otherwise the seek fails and the reader is where it was. -/
structure Follows (reader : Reader) (seek : Seek) (sum : Int) : Prop where
  ok_iff : ∀ reached, (reader.seek seek).result = .ok reached ↔
    IsPosition sum ∧ (reached : Int) = sum
  error_iff : ∀ error, (reader.seek seek).result = .error error ↔
    ¬IsPosition sum ∧ error = .unreachable
  moved : ∀ reached, (reader.seek seek).result = .ok reached →
    (reader.seek seek).reader = ⟨reader.storage, reached⟩
  stayed : ∀ error, (reader.seek seek).result = .error error →
    (reader.seek seek).reader = reader

theorem seek_follows (sizeFits : storage.size < positionLimit)
    (positionFits : position < positionLimit) {seek : Seek} (inRange : seek.InRange) :
    (Reader.mk storage position).Follows seek (seek.target position storage.size) := by
  by_cases reached : IsPosition (seek.target position storage.size)
  · have arrives := seek_of_isPosition sizeFits positionFits inRange reached
    have exact := Int.toNat_of_nonneg reached.1
    refine ⟨?ok_iff, ?error_iff, ?moved, fun _ failed => reader_of_seek_error failed⟩
    case ok_iff =>
      intro result
      simp only [arrives, Except.ok.injEq, reached, true_and]
      omega
    case error_iff => simp [arrives, reached]
    case moved =>
      intro result same
      rw [arrives] at same ⊢
      cases same
      rfl
  · have fails := seek_of_not_isPosition sizeFits positionFits inRange reached
    refine ⟨?_, ?_, ?_, fun _ failed => reader_of_seek_error failed⟩
    · simp [fails, reached]
    · simp [fails, reached, eq_comm]
    · simp [fails]

/-- What can be asked of a reader. -/
def Operation.InRange : Operation → Prop
  | .seek target => target.InRange
  | .read _ => True

/-- The operation does not succeed with this reader. -/
inductive Fails (reader : Reader) : Operation → Prop where
  | seek {target : Seek} {error : IoError} :
      (reader.seek target).result = .error error → Fails reader (.seek target)
  | read {buffer : Bytes} {error : IoError} :
      (reader.nextInto buffer).result = .error error → Fails reader (.read buffer)

theorem Fails.after_eq {reader : Reader} {operation : Operation}
    (fails : reader.Fails operation) : reader.after operation = reader := by
  cases fails with
  | seek failed => exact reader_of_seek_error failed
  | read failed => exact reader_of_nextInto_error failed

/-- An operation that fails might as well be left out of a run. -/
theorem Fails.run_eq {reader : Reader} {before : List Operation} {operation : Operation}
    (fails : (reader.run before).Fails operation) (later : List Operation) :
    reader.run (before ++ operation :: later) = reader.run (before ++ later) := by
  have stays := fails.after_eq
  simp only [run] at stays
  simp only [run, List.foldl_append, List.foldl_cons, stays]

/-- No operation leaves the range of positions. -/
theorem exists_after_eq (sizeFits : storage.size < positionLimit)
    (positionFits : position < positionLimit) {operation : Operation}
    (inRange : operation.InRange) :
    ∃ later < positionLimit, (Reader.mk storage position).after operation =
      ⟨storage, later⟩ := by
  cases operation with
  | seek seek =>
      by_cases reached : IsPosition (seek.target position storage.size)
      · have moved := seek_of_isPosition sizeFits positionFits inRange reached
        refine ⟨_, (Int.toNat_lt reached.1).mpr reached.2, ?_⟩
        rw [after, moved]
      · have failed := seek_of_not_isPosition sizeFits positionFits inRange reached
        refine ⟨position, positionFits, ?_⟩
        rw [after, failed]
  | read buffer =>
      cases given : ((Reader.mk storage position).nextInto buffer).result with
      | error error => exact ⟨position, positionFits, (Fails.read given).after_eq⟩
      | ok filled =>
          obtain ⟨place, inside⟩ := reader_of_nextInto given
          exact ⟨position + filled.count, by omega, place⟩

theorem exists_run_eq (sizeFits : storage.size < positionLimit)
    (positionFits : position < positionLimit) {operations : List Operation}
    (inRange : ∀ operation ∈ operations, operation.InRange) :
    ∃ reached < positionLimit, (Reader.mk storage position).run operations =
      ⟨storage, reached⟩ := by
  induction operations generalizing position with
  | nil => exact ⟨position, positionFits, rfl⟩
  | cons operation rest induction =>
      rw [List.forall_mem_cons] at inRange
      obtain ⟨later, laterFits, here⟩ := exists_after_eq sizeFits positionFits inRange.1
      obtain ⟨reached, reachedFits, there⟩ := induction laterFits inRange.2
      refine ⟨reached, reachedFits, ?_⟩
      rw [← there, ← here]
      rfl

/-- Wherever seeks and reads have led a reader, a seek by a distance has the outcome of the
exact sum, and a seek to a position succeeds.  A read that gives something moves on by as
much.  What fails leaves the reader where it was, and a run goes on as if it had not been
tried. -/
theorem seek_of_run (sizeFits : storage.size < positionLimit) {operations : List Operation}
    (inRange : ∀ operation ∈ operations, operation.InRange) :
    ∃ position < positionLimit, (start storage).run operations = ⟨storage, position⟩ ∧
      (∀ target < positionLimit,
        (((start storage).run operations).seek (.start target)).result = .ok target ∧
          (((start storage).run operations).seek (.start target)).reader =
            ⟨storage, target⟩) ∧
      (∀ offset, IsDistance offset →
        ((start storage).run operations).Follows (.current offset) (position + offset)) ∧
      (∀ offset, IsDistance offset →
        ((start storage).run operations).Follows (.fromEnd offset) (storage.size + offset)) ∧
      (∀ buffer filled,
        (((start storage).run operations).nextInto buffer).result = .ok filled →
          (((start storage).run operations).nextInto buffer).reader =
            ⟨storage, position + filled.count⟩) ∧
      ∀ operation, ((start storage).run operations).Fails operation →
        ((start storage).run operations).after operation = ⟨storage, position⟩ ∧
          ∀ later, (start storage).run (operations ++ operation :: later) =
            (start storage).run (operations ++ later) := by
  have positive : 0 < positionLimit := by simp [positionLimit]
  obtain ⟨position, positionFits, here⟩ := exists_run_eq sizeFits positive inRange
  change (start storage).run operations = _ at here
  refine ⟨position, positionFits, here, ?start, ?current, ?fromEnd, ?read, ?fails⟩
  case start =>
    intro target _
    rw [here]
    exact ⟨rfl, rfl⟩
  case current =>
    intro offset distance
    rw [here]
    exact seek_follows sizeFits positionFits distance
  case fromEnd =>
    intro offset distance
    rw [here]
    exact seek_follows sizeFits positionFits distance
  case read =>
    intro buffer filled given
    rw [here] at given ⊢
    exact (reader_of_nextInto given).1
  case fails =>
    intro operation fails
    exact ⟨fails.after_eq.trans here, fails.run_eq⟩

/-- A seek to the last position; one step further and a read past the end, which both
fail; and then as far back as a distance goes. -/
def farSteps : List Operation :=
  [.seek (.start 0xFFFFFFFFFFFFFFFF), .seek (.current 1), .read [9],
    .seek (.current (-0x8000000000000000))]

theorem seek_of_run_farSteps :
    (start (.memory [1, 2, 3])).run farSteps = ⟨.memory [1, 2, 3], 0x7FFFFFFFFFFFFFFF⟩ ∧
      (((start (.memory [1, 2, 3])).run farSteps).seek
          (.current (-0x8000000000000000))).result = .error .unreachable ∧
      (((start (.memory [1, 2, 3])).run farSteps).seek (.fromEnd (-3))).result = .ok 0 ∧
      (((start (.memory [1, 2, 3])).run farSteps).seek (.fromEnd (-3))).reader =
        ⟨.memory [1, 2, 3], 0⟩ := by
  have sizeFits : (Storage.memory [1, 2, 3]).size < positionLimit := by
    simp [Storage.size, positionLimit]
  have inRange : ∀ operation ∈ farSteps, operation.InRange := by
    simp [farSteps, Operation.InRange, Seek.InRange, IsDistance, distanceLimit, positionLimit]
  obtain ⟨position, -, here, -, current, fromEnd, -, -⟩ := seek_of_run sizeFits inRange
  have arrived : position = 0x7FFFFFFFFFFFFFFF := congrArg Reader.position here.symm
  subst arrived
  have back := current (-0x8000000000000000) (by simp [IsDistance, distanceLimit])
  have first := fromEnd (-3) (by simp [IsDistance, distanceLimit])
  have result := (first.ok_iff 0).mpr ⟨by simp [IsPosition, Storage.size, positionLimit], rfl⟩
  refine ⟨here, (back.error_iff _).mpr ⟨by simp [IsPosition], rfl⟩, result, ?_⟩
  rw [first.moved 0 result, here]

end Reader

end Gamecard
