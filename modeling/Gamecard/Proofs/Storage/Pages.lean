import Gamecard.Proofs.Bytes
import Gamecard.Storage.Reader

/-!
# Reads of whole pages

What an operation asks the underlying bytes for is bounded read by read.  A page
adapter asks for whole pages, except that the last page ends with the bytes.
Windows and readers on top of it ask for nothing else, whatever is read from
them.
-/

namespace Gamecard

/-- The range starts where a page starts and ends where a page ends, or at the limit. -/
structure Extent.OnPages (pageSize limit : Nat) (extent : Extent) : Prop where
  offset_dvd : pageSize ∣ extent.offset
  length_dvd_or_ends : pageSize ∣ extent.length ∨ extent.offset + extent.length = limit

namespace Access

variable {ε δ α β : Type} {allowed : Extent → Prop}

/-- The operation asks for ranges of this kind only. -/
def AsksOnly (allowed : Extent → Prop) (access : Access ε α) : Prop :=
  ∀ extent ∈ access.reads, allowed extent

theorem asksOnly_pure (value : α) : (pure value : Access ε α).AsksOnly allowed :=
  List.forall_mem_nil _

theorem asksOnly_fail (error : ε) : (fail error : Access ε α).AsksOnly allowed :=
  List.forall_mem_nil _

theorem asksOnly_ofExcept (result : Except ε α) : (ofExcept result).AsksOnly allowed :=
  List.forall_mem_nil _

theorem AsksOnly.bind {access : Access ε α} {next : α → Access ε β}
    (first : access.AsksOnly allowed)
    (later : ∀ value, access.result = .ok value → (next value).AsksOnly allowed) :
    (access >>= next).AsksOnly allowed := by
  intro extent member
  rw [reads_bind] at member
  rcases List.mem_append.mp member with before | after
  · exact first extent before
  · cases given : access.result with
    | error error =>
        rw [given] at after
        cases after
    | ok value =>
        rw [given] at after
        exact later value given extent after

theorem AsksOnly.mapError {access : Access ε α} (asks : access.AsksOnly allowed)
    (change : ε → δ) : (access.mapError change).AsksOnly allowed :=
  asks

theorem AsksOnly.attempt {access : Access ε α} (asks : access.AsksOnly allowed) :
    (access.attempt : Access δ (Except ε α)).AsksOnly allowed :=
  asks

end Access

namespace Alignment

variable {alignment : Nat}

theorem pos_of_isPowerOfTwo (power : isPowerOfTwo alignment = true) : 0 < alignment := by
  simp only [isPowerOfTwo, Bool.and_eq_true, bne_iff_ne] at power
  exact Nat.pos_of_ne_zero power.1

theorem and_eq_mod (power : isPowerOfTwo alignment = true) (address : Nat) :
    address &&& (alignment - 1) = address % alignment := by
  simp only [isPowerOfTwo, Bool.and_eq_true, bne_iff_ne, beq_iff_eq] at power
  obtain ⟨exponent, same⟩ := (Nat.and_sub_one_eq_zero_iff_isPowerOfTwo power.1).mp power.2
  rw [same, Nat.and_two_pow_sub_one_eq_mod]

theorem dvd_down (power : isPowerOfTwo alignment = true) (address : Nat) :
    alignment ∣ down address alignment := by
  rw [down, and_eq_mod power]
  exact Nat.dvd_sub_mod address

theorem dvd_up (power : isPowerOfTwo alignment = true) (address : Nat) :
    alignment ∣ up address alignment :=
  dvd_down power _

end Alignment

namespace Storage

variable {storage : Storage} {allowed : Extent → Prop} {pageSize limit : Nat}

/-- Whatever is read from the storage, it asks for ranges of this kind only. -/
def AsksOnly (allowed : Extent → Prop) (storage : Storage) : Prop :=
  ∀ offset length, (storage.read offset length).AsksOnly allowed

/-- A read of pages of the storage asks for pages of the underlying bytes. -/
def MapsPages (pageSize limit : Nat) (storage : Storage) : Prop :=
  ∀ extent : Extent, extent.OnPages pageSize storage.size →
    (storage.read extent.offset extent.length).AsksOnly (Extent.OnPages pageSize limit)

theorem mapsPages_memory (bytes : Bytes) : (memory bytes).MapsPages pageSize bytes.length := by
  intro extent onPages asked member
  rw [List.mem_singleton.mp member]
  exact onPages

/-- A window that starts with a page and leaves nothing out behind it. -/
theorem MapsPages.window (maps : storage.MapsPages pageSize limit) {start size : Nat}
    (aligned : pageSize ∣ start) (whole : start + size = storage.size) :
    (Storage.window storage start size).MapsPages pageSize limit := by
  intro extent onPages
  have shifted : (Extent.mk (start + extent.offset) extent.length).OnPages pageSize
      storage.size := by
    refine ⟨Nat.dvd_add aligned onPages.offset_dvd, ?_⟩
    rcases onPages.length_dvd_or_ends with pages | ends
    · exact .inl pages
    · right
      rw [← whole, Nat.add_assoc, ends]
      rfl
  rw [read]
  split
  · exact maps _ shifted
  · exact Access.asksOnly_fail _

theorem cover_onPages (power : Alignment.isPowerOfTwo pageSize = true)
    {size offset length : Nat} (within : offset + length ≤ size) :
    (cover pageSize size offset length).OnPages pageSize size where
  offset_dvd := Alignment.dvd_down power offset
  length_dvd_or_ends := by
    rcases Nat.le_total (Alignment.up (offset + length) pageSize) size with inside | beyond
    · left
      rw [cover, Nat.min_eq_left inside]
      exact Nat.dvd_sub (Alignment.dvd_up power _) (Alignment.dvd_down power offset)
    · right
      have first : Alignment.down offset pageSize ≤ size := by
        have lower := Alignment.down_le offset pageSize
        omega
      rw [cover, Nat.min_eq_right beyond]
      exact Nat.add_sub_cancel' first

/-- A page adapter asks the storage below for the blocks that cover the range, also
when they are the range itself. -/
theorem reads_paged {alignment offset length : Nat} (within : offset + length ≤ storage.size)
    (wanted : length ≠ 0) :
    ((paged storage alignment).read offset length).reads =
      (storage.read (cover alignment storage.size offset length).offset
        (cover alignment storage.size offset length).length).reads := by
  rw [read, if_neg (Nat.not_lt.mpr within), if_neg wanted]
  by_cases whole : cover alignment storage.size offset length = ⟨offset, length⟩
  · rw [if_pos whole, whole]
  · rw [if_neg whole, Access.reads_bind]
    split
    · exact List.append_nil _
    · exact List.append_nil _

theorem MapsPages.paged (maps : storage.MapsPages pageSize limit)
    (power : Alignment.isPowerOfTwo pageSize = true) :
    (Storage.paged storage pageSize).AsksOnly (Extent.OnPages pageSize limit) := by
  intro offset length
  by_cases within : offset + length ≤ storage.size
  · by_cases wanted : length = 0
    · rw [read, if_neg (Nat.not_lt.mpr within), if_pos wanted]
      exact Access.asksOnly_pure _
    · intro extent member
      rw [reads_paged within wanted] at member
      exact maps _ (cover_onPages power within) extent member
  · rw [read, if_pos (Nat.not_le.mp within)]
    exact Access.asksOnly_fail _

theorem AsksOnly.window (asks : storage.AsksOnly allowed) (start size : Nat) :
    (Storage.window storage start size).AsksOnly allowed := by
  intro offset length
  rw [read]
  split
  · exact asks _ _
  · exact Access.asksOnly_fail _

end Storage

namespace Reader

variable {reader : Reader} {allowed : Extent → Prop}

/-- A read asks the storage for what it does, and stays with this storage. -/
theorem reads_next (reader : Reader) (length : Nat) :
    (reader.next length).reads =
        (reader.storage.read reader.position (reader.available length)).reads ∧
      (reader.next length).reader.storage = reader.storage := by
  cases given : (reader.storage.read reader.position (reader.available length)).result with
  | error error =>
      rw [next_of_eq_error given]
      exact ⟨rfl, rfl⟩
  | ok bytes =>
      rw [next_of_eq_ok given]
      exact ⟨rfl, rfl⟩

theorem asksOnly_next (asks : reader.storage.AsksOnly allowed) (length : Nat) :
    (reader.next length).AsksOnly allowed := by
  rw [Access.AsksOnly, (reads_next reader length).1]
  exact asks _ _

theorem storage_of_next (reader : Reader) (length : Nat) :
    (reader.next length).reader.storage = reader.storage :=
  (reads_next reader length).2

/-- Moving asks for nothing, and stays with the storage. -/
theorem reads_moveFrom (base : Nat) (offset : Int) (reader : Reader) :
    (moveFrom base offset reader).reads = [] ∧
      (moveFrom base offset reader).reader.storage = reader.storage := by
  cases moved : move? base offset with
  | error error =>
      rw [moveFrom_of_eq_error moved]
      exact ⟨rfl, rfl⟩
  | ok target =>
      rw [moveFrom_of_eq_ok moved]
      exact ⟨rfl, rfl⟩

theorem reads_seek (reader : Reader) (target : Seek) :
    (reader.seek target).reads = [] ∧ (reader.seek target).reader.storage = reader.storage := by
  cases target with
  | start position => exact ⟨rfl, rfl⟩
  | current offset => exact reads_moveFrom reader.position offset reader
  | fromEnd offset => exact reads_moveFrom reader.storage.size offset reader

theorem asksOnly_seek (reader : Reader) (target : Seek) :
    (reader.seek target).AsksOnly allowed := by
  rw [Access.AsksOnly, (reads_seek reader target).1]
  exact List.forall_mem_nil _

theorem storage_of_seek (reader : Reader) (target : Seek) :
    (reader.seek target).reader.storage = reader.storage :=
  (reads_seek reader target).2

theorem reads_collect (asks : reader.storage.AsksOnly allowed) (lengths : Nat → Nat)
    (index calls : Nat) : ∀ extent ∈ (collect lengths index calls reader).reads, allowed extent := by
  induction calls generalizing reader index with
  | zero => exact List.forall_mem_nil _
  | succ calls induction =>
      have here := asksOnly_next asks (lengths index)
      rw [collect]
      split
      · exact here
      next bytes given =>
        split
        · exact here
        · have following := induction
            ((storage_of_next reader (lengths index)).symm ▸ asks) (index + 1)
          exact List.forall_mem_append.mpr ⟨here, following⟩

end Reader

theorem Storage.AsksOnly.contents {storage : Storage} {allowed : Extent → Prop}
    (asks : storage.AsksOnly allowed) : storage.contents.AsksOnly allowed :=
  Reader.reads_collect asks _ _ _

end Gamecard
