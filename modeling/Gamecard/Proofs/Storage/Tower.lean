import Gamecard.Proofs.Storage.Shows

/-!
# Towers of layers

Windows and page adapters can be put on top of each other in any order.  However
many there are, the topmost storage shows one range of what the storage at the
bottom shows: the range starts at the sum of the offsets of the windows, and
nothing outside of it can be read.
-/

namespace Gamecard

inductive Layer where
  | window (offset size : Nat)
  | tail (offset : Nat)
  | paged (alignment : Nat)
deriving DecidableEq

namespace Layer

def offset : Layer → Nat
  | .window offset _ => offset
  | .tail offset => offset
  | .paged _ => 0

def over? (storage : Storage) : Layer → Option Storage
  | .window offset size => (storage.window? offset size).toOption
  | .tail offset => (storage.tail? offset).toOption
  | .paged alignment => storage.paged? alignment

end Layer

namespace Storage

/-- The storage under layers, each on top of the one before. -/
def tower? : Storage → List Layer → Option Storage
  | storage, [] => some storage
  | storage, layer :: rest => (layer.over? storage).bind fun upper => upper.tower? rest

/-- How far from the start of the lowest storage a tower starts. -/
def towerOffset : List Layer → Nat
  | [] => 0
  | layer :: rest => layer.offset + towerOffset rest

theorem window?_eq_ok_iff {storage result : Storage} {offset size : Nat} :
    storage.window? offset size = .ok result ↔
      offset + size ≤ storage.size ∧ result = .window storage offset size := by
  unfold window?
  by_cases fits : offset + size ≤ storage.size
  · simp [fits, eq_comm]
  · simp [fits]

theorem tail?_eq_ok_iff {storage result : Storage} {offset : Nat} :
    storage.tail? offset = .ok result ↔
      offset ≤ storage.size ∧ result = .window storage offset (storage.size - offset) := by
  unfold tail?
  by_cases fits : offset ≤ storage.size
  · rw [if_pos fits, window?_eq_ok_iff]
    constructor
    · intro ⟨_, same⟩
      exact ⟨fits, same⟩
    · intro ⟨_, same⟩
      exact ⟨Nat.le_of_eq (Nat.add_sub_cancel' fits), same⟩
  · simp [fits]

theorem toOption_eq_some_iff {ε α : Type} {result : Except ε α} {value : α} :
    result.toOption = some value ↔ result = .ok value := by
  cases result with
  | error error => simp [Except.toOption]
  | ok value => simp [Except.toOption]

/-- A layer is a window or a page adapter, and a window lies within the storage
below. -/
theorem layer_cases {storage upper : Storage} {layer : Layer}
    (built : layer.over? storage = some upper) :
    (∃ size, layer.offset + size ≤ storage.size ∧
        upper = .window storage layer.offset size) ∨
      (layer.offset = 0 ∧ ∃ alignment, upper = .paged storage alignment) := by
  cases layer with
  | window offset size =>
      obtain ⟨fits, same⟩ := window?_eq_ok_iff.mp (toOption_eq_some_iff.mp built)
      exact .inl ⟨size, fits, same⟩
  | tail offset =>
      obtain ⟨fits, same⟩ := tail?_eq_ok_iff.mp (toOption_eq_some_iff.mp built)
      exact .inl ⟨_, Nat.le_of_eq (Nat.add_sub_cancel' fits), same⟩
  | paged alignment =>
      simp only [Layer.over?, paged?] at built
      split at built
      · exact .inr ⟨rfl, alignment, (Option.some.inj built).symm⟩
      · cases built

theorem Shows.layer {storage upper : Storage} {bytes : Bytes}
    (shows : storage.Shows bytes) {layer : Layer}
    (built : layer.over? storage = some upper) :
    ∃ size, layer.offset + size ≤ bytes.length ∧
      upper.Shows (bytes.slice layer.offset size) := by
  rcases layer_cases built with ⟨size, fits, same⟩ | ⟨start, alignment, same⟩
  · rw [shows.size_eq] at fits
    rw [same]
    exact ⟨size, fits, shows.window fits⟩
  · rw [same, start]
    refine ⟨bytes.length, Nat.le_of_eq (Nat.zero_add _), ?_⟩
    rw [Bytes.slice_zero_length]
    exact shows.paged alignment

theorem reads_beyond_layer {storage upper : Storage} {layer : Layer}
    (built : layer.over? storage = some upper) {offset length : Nat}
    (beyond : upper.size < offset + length) : (upper.read offset length).reads = [] := by
  rcases layer_cases built with ⟨size, _, same⟩ | ⟨_, alignment, same⟩
  · subst same
    simp only [Storage.size] at beyond
    rw [read, if_neg (Nat.not_le.mpr beyond), Access.reads_fail]
  · subst same
    simp only [Storage.size] at beyond
    rw [read, if_pos beyond, Access.reads_fail]

theorem Shows.tower {storage top : Storage} {bytes : Bytes} (shows : storage.Shows bytes)
    {layers : List Layer} (built : storage.tower? layers = some top) :
    ∃ size, towerOffset layers + size ≤ bytes.length ∧
      top.Shows (bytes.slice (towerOffset layers) size) := by
  induction layers generalizing storage bytes with
  | nil =>
      cases built
      refine ⟨bytes.length, Nat.le_of_eq (Nat.zero_add _), ?_⟩
      rw [towerOffset, Bytes.slice_zero_length]
      exact shows
  | cons layer rest induction =>
      obtain ⟨upper, here, later⟩ := Option.bind_eq_some_iff.mp built
      obtain ⟨middle, middleFits, upperShows⟩ := shows.layer here
      obtain ⟨size, fits, topShows⟩ := induction upperShows later
      rw [Bytes.length_slice_of_le middleFits] at fits
      rw [Bytes.slice_slice bytes fits] at topShows
      refine ⟨size, ?_, topShows⟩
      rw [towerOffset]
      omega

/-- The bytes behind the first one, read in pages of two. -/
theorem exists_tower_behind (first : UInt8) (bytes : Bytes) :
    ∃ top, (memory (first :: bytes)).tower? [.tail 1, .paged 2] = some top ∧
      top.Shows bytes := by
  have behind : (memory (first :: bytes)).tail? 1 =
      .ok (.window (memory (first :: bytes)) 1 bytes.length) :=
    tail?_eq_ok_iff.mpr ⟨Nat.le_add_left 1 bytes.length, rfl⟩
  have rest : Bytes.slice 1 bytes.length (first :: bytes) = bytes :=
    Bytes.slice_rest 1 (first :: bytes)
  have fits : 1 + bytes.length ≤ (first :: bytes).length :=
    Nat.le_of_eq (Nat.add_comm 1 bytes.length)
  have shows := ((shows_memory (first :: bytes)).window fits).paged 2
  rw [rest] at shows
  refine ⟨_, ?_, shows⟩
  simp only [tower?, Layer.over?, behind]
  rfl

theorem reads_beyond_layers {storage top : Storage} {layer : Layer} {rest : List Layer}
    (built : storage.tower? (layer :: rest) = some top) {offset length : Nat}
    (beyond : top.size < offset + length) : (top.read offset length).reads = [] := by
  induction rest generalizing storage layer with
  | nil =>
      obtain ⟨upper, here, later⟩ := Option.bind_eq_some_iff.mp built
      cases later
      exact reads_beyond_layer here beyond
  | cons next rest induction =>
      obtain ⟨upper, _, later⟩ := Option.bind_eq_some_iff.mp built
      exact induction later

/-- Past its end a tower asks memory for nothing; memory itself is asked for
what it does not have. -/
theorem reads_beyond_tower {bytes : Bytes} {top : Storage} {layers : List Layer}
    (built : (memory bytes).tower? layers = some top) {offset length : Nat}
    (beyond : top.size < offset + length) :
    (top.read offset length).reads = if layers.isEmpty then [⟨offset, length⟩] else [] := by
  cases layers with
  | nil =>
      cases built
      rfl
  | cons layer rest => exact reads_beyond_layers built beyond

/-- A tower over memory is a window of it: its size, its reads and the windows
that fit into it are those of one range of the bytes, and a read that leaves
the range asks the memory for nothing. -/
theorem tower_isWindow {bytes : Bytes} {layers : List Layer} {top : Storage}
    (built : (memory bytes).tower? layers = some top) :
    ∃ size, towerOffset layers + size ≤ bytes.length ∧ top.size = size ∧
      (∀ offset length, offset + length ≤ size →
        (top.read offset length).result =
          .ok (bytes.slice (towerOffset layers + offset) length)) ∧
      (∀ offset length, size < offset + length →
        (top.read offset length).result = .error (.pastEnd length offset size) ∧
          (top.read offset length).reads =
            if layers.isEmpty then [⟨offset, length⟩] else []) ∧
      (∀ offset length, (∃ window, top.window? offset length = .ok window) ↔
        offset + length ≤ size) ∧
      ∀ offset, (∃ window, top.tail? offset = .ok window) ↔ offset ≤ size := by
  obtain ⟨size, fits, shows⟩ := (shows_memory bytes).tower built
  have exact := Bytes.length_slice_of_le fits
  have sizeEq : top.size = size := shows.size_eq.trans exact
  refine ⟨size, fits, sizeEq, ?_, ?_, ?_, ?_⟩
  · intro offset length within
    rw [shows.read_within offset length (exact.symm ▸ within), Bytes.slice_slice bytes within]
  · intro offset length beyond
    constructor
    · rw [shows.read_beyond offset length (exact.symm ▸ beyond), exact]
    · exact reads_beyond_tower built (sizeEq.symm ▸ beyond)
  · intro offset length
    simp only [window?_eq_ok_iff, sizeEq, exists_and_left, exists_eq, and_true]
  · intro offset
    simp only [tail?_eq_ok_iff, sizeEq, exists_and_left, exists_eq, and_true]

/-- Pages of two bytes between windows that start at odd offsets. -/
theorem tower_isWindow_oddOffsets :
    ∃ top, (memory [1, 2, 3, 4, 5, 6, 7]).tower? [.window 1 6, .paged 2, .tail 3] = some top ∧
      (top.read 1 2).result = .ok [6, 7] ∧
      (top.read 2 2).result = .error (.pastEnd 2 2 3) ∧ (top.read 2 2).reads = [] := by
  have built : (memory [1, 2, 3, 4, 5, 6, 7]).tower? [.window 1 6, .paged 2, .tail 3] =
      some (.window (.paged (.window (memory [1, 2, 3, 4, 5, 6, 7]) 1 6) 2) 3 3) := rfl
  refine ⟨_, built, ?_⟩
  obtain ⟨size, _, sizeEq, within, beyond, _⟩ := tower_isWindow built
  cases sizeEq
  exact ⟨within 1 2 (by decide), beyond 2 2 (by decide)⟩

end Storage

end Gamecard
