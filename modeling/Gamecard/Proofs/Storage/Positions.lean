import Gamecard.Proofs.Storage.Pages
import Gamecard.Proofs.Storage.Reading
import Gamecard.Proofs.Storage.Tower

/-!
# Positions of a reader

Seeks and reads move a reader, and a seek may lead past the end of the storage.
Up to the end, the end included, a read into a buffer gives what follows, as much
of it as the buffer takes.  Past the end it asks for no bytes at a place that the
storage does not have, and the storage refuses: the read fails instead of giving
nothing, and the reader stays where it is.
-/

namespace Gamecard

namespace Storage.Shows

variable {storage : Storage} {bytes : Bytes}

/-- At a position of the storage a read fills the front of the buffer. -/
theorem nextInto_within (shows : storage.Shows bytes) {position : Nat}
    (inside : position ≤ bytes.length) (buffer : Bytes) {count : Nat}
    (counted : count = min buffer.length (bytes.length - position)) :
    ((Reader.mk storage position).nextInto buffer).result =
        .ok ⟨count, bytes.slice position count ++ buffer.drop count⟩ ∧
      ((Reader.mk storage position).nextInto buffer).reader =
        ⟨storage, position + count⟩ := by
  have given : (bytes.slice position count).length = count :=
    Bytes.length_slice_of_le (by omega)
  obtain ⟨read, moved⟩ := shows.next inside buffer.length
  rw [← counted] at read moved
  rw [Reader.nextInto_of_eq_ok read, given]
  exact ⟨rfl, moved⟩

/-- Past the end there is no place to read even nothing from. -/
theorem nextInto_beyond (shows : storage.Shows bytes) {position : Nat}
    (beyond : bytes.length < position) (buffer : Bytes) :
    ((Reader.mk storage position).nextInto buffer).result =
        .error (.pastEnd 0 position bytes.length) ∧
      ((Reader.mk storage position).nextInto buffer).reader = ⟨storage, position⟩ := by
  have nothing : (Reader.mk storage position).available buffer.length = 0 := by
    simp only [Reader.available, shows.size_eq]
    omega
  have refused : (storage.read position
      ((Reader.mk storage position).available buffer.length)).result =
        .error (.pastEnd 0 position bytes.length) := by
    rw [nothing]
    exact shows.read_beyond position 0 beyond
  have failed : (Reader.mk storage position).next buffer.length = _ :=
    Reader.next_of_eq_error refused
  rw [Reader.nextInto_of_eq_error (by rw [failed]), failed]
  exact ⟨rfl, rfl⟩

end Storage.Shows

namespace Reader

theorem storage_of_nextInto (reader : Reader) (buffer : Bytes) :
    (reader.nextInto buffer).reader.storage = reader.storage := by
  have same := storage_of_next reader buffer.length
  cases given : (reader.next buffer.length).result with
  | error error => rwa [nextInto_of_eq_error given]
  | ok bytes => rwa [nextInto_of_eq_ok given]

theorem storage_after (reader : Reader) (operation : Operation) :
    (reader.after operation).storage = reader.storage := by
  cases operation with
  | seek target => exact storage_of_seek reader target
  | read buffer => exact storage_of_nextInto reader buffer

theorem storage_run (operations : List Operation) (reader : Reader) :
    (reader.run operations).storage = reader.storage := by
  induction operations generalizing reader with
  | nil => rfl
  | cons operation rest induction =>
      exact (induction (reader.after operation)).trans (storage_after reader operation)

theorem exists_run_start (storage : Storage) (operations : List Operation) :
    ∃ position, (start storage).run operations = ⟨storage, position⟩ := by
  have same : ((start storage).run operations).storage = storage :=
    storage_run operations (start storage)
  generalize (start storage).run operations = reached at same
  subst same
  exact ⟨reached.position, rfl⟩

/-- Wherever seeks and reads have led a reader over a tower: up to the end a read gives
as much as there is and the buffer takes, and moves on by as much; past the end it
fails and moves nothing. -/
theorem nextInto_of_run {bytes : Bytes} {layers : List Layer} {top : Storage}
    (built : (Storage.memory bytes).tower? layers = some top)
    (operations : List Operation) :
    ∃ size position, Storage.towerOffset layers + size ≤ bytes.length ∧ top.size = size ∧
      (start top).run operations = ⟨top, position⟩ ∧
      ∀ buffer : Bytes,
        (position ≤ size →
          ((start top).run operations |>.nextInto buffer).result =
              .ok
                { count := min buffer.length (size - position)
                  buffer := bytes.slice (Storage.towerOffset layers + position)
                      (min buffer.length (size - position)) ++
                    buffer.drop (min buffer.length (size - position)) } ∧
            ((start top).run operations |>.nextInto buffer).reader =
              ⟨top, position + min buffer.length (size - position)⟩) ∧
        (size < position →
          ((start top).run operations |>.nextInto buffer).result =
              .error (.pastEnd 0 position size) ∧
            ((start top).run operations).after (.read buffer) =
              (start top).run operations) := by
  obtain ⟨size, fits, shows⟩ := (Storage.shows_memory bytes).tower built
  have length := Bytes.length_slice_of_le fits
  obtain ⟨position, here⟩ := exists_run_start top operations
  refine ⟨size, position, fits, shows.size_eq.trans length, here, ?_⟩
  intro buffer
  rw [here]
  constructor
  · intro inside
    have counted : min buffer.length (size - position) =
        min buffer.length ((bytes.slice (Storage.towerOffset layers) size).length - position) := by
      rw [length]
    have filled := shows.nextInto_within (length.symm ▸ inside) buffer counted
    rwa [Bytes.slice_slice bytes (by omega)] at filled
  · intro beyond
    have refused := shows.nextInto_beyond (length.symm ▸ beyond) buffer
    rwa [length] at refused

/-- A reader of three bytes that a seek moves before the end and then past it. -/
theorem nextInto_of_run_around_end :
    ∃ top, (Storage.memory [1, 2, 3, 4, 5]).tower? [.window 1 4, .paged 2, .tail 1] = some top ∧
      ((start top).run [.seek (.fromEnd (-1))] |>.nextInto [9, 9]).result = .ok ⟨1, [5, 9]⟩ ∧
      ((start top).run [.seek (.fromEnd (-1)), .read [9], .seek (.current 1)]
          |>.nextInto [9, 9]).result = .error (.pastEnd 0 4 3) := by
  have built : (Storage.memory [1, 2, 3, 4, 5]).tower? [.window 1 4, .paged 2, .tail 1] =
      some (.window (.paged (.window (Storage.memory [1, 2, 3, 4, 5]) 1 4) 2) 1 3) := rfl
  refine ⟨_, built, ?_, ?_⟩
  · obtain ⟨size, position, _, sized, here, reads⟩ :=
      nextInto_of_run built [.seek (.fromEnd (-1))]
    cases sized
    cases here
    exact ((reads [9, 9]).1 (by decide)).1
  · obtain ⟨size, position, _, sized, here, reads⟩ :=
      nextInto_of_run built [.seek (.fromEnd (-1)), .read [9], .seek (.current 1)]
    cases sized
    have arrived : position = 4 := congrArg Reader.position here.symm
    subst arrived
    exact ((reads [9, 9]).2 (by decide)).1

/-- A read past the end does not give nothing: it fails. -/
theorem nextInto_fails_past_end :
    ∃ top, (Storage.memory [1, 2]).tower? [.tail 1] = some top ∧
      (start top).run [.seek (.start 2)] = ⟨top, 2⟩ ∧
      ∀ filled, ((start top).run [.seek (.start 2)] |>.nextInto [9]).result ≠ .ok filled := by
  refine ⟨.window (.memory [1, 2]) 1 1, rfl, rfl, ?_⟩
  intro filled given
  cases given

end Reader

end Gamecard
