import Gamecard.Storage

/-!
# Reading a storage from front to back

A reader stands at a position of a storage.  It hands out what follows, never
more than there is, and moves on by as much.  The position may be set beyond
the end.  Reads and seeks change the reader in place, so what one of them comes
to tells its outcome and the reader afterwards, also when it fails.
-/

namespace Gamecard

structure Reader where
  storage : Storage
  position : Nat
deriving DecidableEq

inductive Seek where
  | start (position : Nat)
  | current (offset : Int)
  | fromEnd (offset : Int)
deriving DecidableEq

namespace Reader

/-- The first position that does not exist, as positions have sixty-four bits. -/
def positionLimit : Nat := 0x10000000000000000

def start (storage : Storage) : Reader :=
  ⟨storage, 0⟩

/-- What an operation in place comes to: its result, what it read, and the reader
that it leaves. -/
structure Step (α : Type) extends Access IoError α where
  reader : Reader

/-- One operation and, if it succeeds, another one on its value and the reader that it
left.  If it fails, that reader is the last one. -/
def Step.andThen {α β : Type} (step : Step α) (next : α → Reader → Step β) : Step β :=
  match step.result with
  | .error error => ⟨⟨.error error, step.reads⟩, step.reader⟩
  | .ok value =>
    let later := next value step.reader
    ⟨⟨later.result, step.reads ++ later.reads⟩, later.reader⟩

/-- An operation on a reader in place. -/
def Action (α : Type) : Type :=
  Reader → Step α

namespace Action

variable {α β : Type}

instance : Monad Action where
  pure value := fun reader => ⟨pure value, reader⟩
  bind action next := fun reader => (action reader).andThen next

/-- The reader as it is at this moment. -/
def current : Action Reader := fun reader =>
  ⟨pure reader, reader⟩

def moveTo (position : Nat) : Action Unit := fun reader =>
  ⟨pure (), { reader with position }⟩

/-- An operation that leaves the reader alone. -/
def lift (access : Access IoError α) : Action α := fun reader =>
  ⟨access, reader⟩

theorem apply_pure (value : α) (reader : Reader) :
    (pure value : Action α) reader = ⟨pure value, reader⟩ :=
  rfl

theorem apply_bind (action : Action α) (next : α → Action β) (reader : Reader) :
    (action >>= next) reader = (action reader).andThen next :=
  rfl

end Action

/-- The number of bytes that there are for a read of this length. -/
def available (reader : Reader) (length : Nat) : Nat :=
  min length (reader.storage.size - reader.position)

/-- At most `length` of the bytes that follow; the reader moves behind them. -/
def next (length : Nat) : Action Bytes := do
  let reader ← Action.current
  let count := reader.available length
  let bytes ← Action.lift (reader.storage.read reader.position count)
  Action.moveTo (reader.position + count)
  pure bytes

section Next

variable {reader : Reader} {length : Nat}

theorem next_of_eq_ok {bytes : Bytes}
    (given : (reader.storage.read reader.position (reader.available length)).result =
      .ok bytes) :
    reader.next length =
      ⟨⟨.ok bytes, (reader.storage.read reader.position (reader.available length)).reads⟩,
        ⟨reader.storage, reader.position + reader.available length⟩⟩ := by
  simp [next, Action.apply_bind, Action.apply_pure, Step.andThen, Action.current,
    Action.lift, Action.moveTo, given]

theorem next_of_eq_error {error : IoError}
    (failed : (reader.storage.read reader.position (reader.available length)).result =
      .error error) :
    reader.next length =
      ⟨⟨.error error, (reader.storage.read reader.position (reader.available length)).reads⟩,
        reader⟩ := by
  simp [next, Action.apply_bind, Step.andThen, Action.current, Action.lift, failed]

end Next

/-- What a read into a buffer gives: how many bytes it got, and the buffer with these
bytes in front. -/
structure Filled where
  count : Nat
  buffer : Bytes
deriving DecidableEq

/-- A read into a buffer, whose length is what is asked for. -/
def nextInto (buffer : Bytes) : Action Filled := do
  let bytes ← next buffer.length
  pure ⟨bytes.length, bytes ++ buffer.drop bytes.length⟩

theorem nextInto_of_eq_ok {reader : Reader} {buffer bytes : Bytes}
    (given : (reader.next buffer.length).result = .ok bytes) :
    reader.nextInto buffer =
      ⟨⟨.ok ⟨bytes.length, bytes ++ buffer.drop bytes.length⟩,
          (reader.next buffer.length).reads⟩,
        (reader.next buffer.length).reader⟩ := by
  simp [nextInto, Action.apply_bind, Action.apply_pure, Step.andThen, given]

theorem nextInto_of_eq_error {reader : Reader} {buffer : Bytes} {error : IoError}
    (failed : (reader.next buffer.length).result = .error error) :
    reader.nextInto buffer =
      ⟨⟨.error error, (reader.next buffer.length).reads⟩,
        (reader.next buffer.length).reader⟩ := by
  simp [nextInto, Action.apply_bind, Step.andThen, failed]

/-- The position at a distance from another one, if there is such a position.  What
lies backwards is taken off, what lies ahead is added. -/
def moveWord? (base : UInt64) (offset : Int64) : Option UInt64 :=
  if offset < 0 then
    let back := (-offset).toUInt64
    if back ≤ base then some (base - back) else none
  else
    let target := base + offset.toUInt64
    if base ≤ target then some target else none

/-- The same for a position and a distance that fit sixty-four bits. -/
def move? (base : Nat) (offset : Int) : Except IoError Nat :=
  match moveWord? (.ofNat base) (.ofInt offset) with
  | some target => .ok target.toNat
  | none => .error .unreachable

/-- Moves to the position at a distance from a base, and gives it. -/
def moveFrom (base : Nat) (offset : Int) : Action Nat := do
  let target ← Action.lift (.ofExcept (move? base offset))
  Action.moveTo target
  pure target

theorem moveFrom_of_eq_ok {base target : Nat} {offset : Int}
    (moved : move? base offset = .ok target) (reader : Reader) :
    moveFrom base offset reader = ⟨⟨.ok target, []⟩, ⟨reader.storage, target⟩⟩ := by
  simp [moveFrom, Action.apply_bind, Action.apply_pure, Step.andThen, Action.lift,
    Action.moveTo, Access.ofExcept, moved]

theorem moveFrom_of_eq_error {base : Nat} {offset : Int} {error : IoError}
    (failed : move? base offset = .error error) (reader : Reader) :
    moveFrom base offset reader = ⟨⟨.error error, []⟩, reader⟩ := by
  simp [moveFrom, Action.apply_bind, Step.andThen, Action.lift, Access.ofExcept, failed]

/-- Moves to a position and gives it. -/
def seek : Seek → Action Nat
  | .start target => do
    Action.moveTo target
    pure target
  | .current offset => do
    moveFrom (← Action.current).position offset
  | .fromEnd offset => do
    moveFrom (← Action.current).storage.size offset

/-- Exactly `wanted` of the bytes that follow, after those in `got`.  On failure
the bytes handed out so far are passed over nevertheless. -/
def fill (reader : Reader) (wanted : Nat) (got : Bytes) : Reader × Except IoError Bytes :=
  if wanted = 0 then (reader, .ok got)
  else
    let step := reader.next wanted
    match step.result with
    | .error error => (step.reader, .error error)
    | .ok [] => (step.reader, .error .unfilled)
    | .ok (byte :: bytes) =>
      step.reader.fill (wanted - (byte :: bytes).length) (got ++ byte :: bytes)
termination_by wanted
decreasing_by
  simp only [List.length_cons]
  omega

structure Collected where
  bytes : Bytes
  failure : Option IoError
  reads : List Extent
deriving DecidableEq

/-- What is handed out by at most `calls` reads until one hands out nothing or
fails; the read number `index` asks for `lengths index` bytes. -/
def collect (lengths : Nat → Nat) (index : Nat) : Nat → Reader → Collected
  | 0, _ => ⟨[], none, []⟩
  | calls + 1, reader =>
    let step := reader.next (lengths index)
    match step.result with
    | .error error => ⟨[], some error, step.reads⟩
    | .ok bytes =>
      if bytes.isEmpty then ⟨[], none, step.reads⟩
      else
        let rest := collect lengths (index + 1) calls step.reader
        ⟨bytes ++ rest.bytes, rest.failure, step.reads ++ rest.reads⟩

def Collected.access (collected : Collected) : Access IoError Bytes where
  result :=
    match collected.failure with
    | none => .ok collected.bytes
    | some error => .error error
  reads := collected.reads

/-- What can be done with a reader. -/
inductive Operation where
  | seek (target : Seek)
  | read (buffer : Bytes)

/-- The reader that an operation leaves. -/
def after (reader : Reader) : Operation → Reader
  | .seek target => (reader.seek target).reader
  | .read buffer => (reader.nextInto buffer).reader

def run (reader : Reader) (operations : List Operation) : Reader :=
  operations.foldl after reader

end Reader

namespace Storage

def copyLength : Nat := 0x2000

/-- The bytes of a storage from front to back, as far as they can be read. -/
def collected (storage : Storage) : Reader.Collected :=
  Reader.collect (fun _ => copyLength) 0 (storage.size + 1) (Reader.start storage)

def contents (storage : Storage) : Access IoError Bytes :=
  storage.collected.access

end Storage

end Gamecard
