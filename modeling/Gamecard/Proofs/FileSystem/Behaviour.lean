import Gamecard.FileSystem.Walk
import Gamecard.Proofs.FileSystem.Mounting

/-!
# File systems that behave alike

Storages that show the same bytes cannot be told apart by reading them, nor can
the file systems that are mounted from them: mounting fails for the same reason,
or every operation afterwards has the same result on both.
-/

namespace Gamecard

/-- Two outcomes with the same error, or with values that are related. -/
inductive Alike {ε α β : Type} (related : α → β → Prop) : Except ε α → Except ε β → Prop where
  | fails (error : ε) : Alike related (.error error) (.error error)
  | succeeds {left : α} {right : β} : related left right → Alike related (.ok left) (.ok right)

namespace Alike

variable {ε α β γ : Type} {related : α → β → Prop}

theorem map (result : Except ε γ) {left : γ → α} {right : γ → β}
    (each : ∀ value, related (left value) (right value)) :
    Alike related (result.map left) (result.map right) := by
  cases result with
  | error error => exact .fails error
  | ok value => exact .succeeds (each value)

theorem error_or_ok {left : Except ε α} {right : Except ε β}
    (alike : Alike related left right) :
    (∃ error, left = .error error ∧ right = .error error) ∨
      ∃ first second, left = .ok first ∧ right = .ok second ∧ related first second := by
  cases alike with
  | fails error => exact .inl ⟨error, rfl, rfl⟩
  | succeeds values => exact .inr ⟨_, _, rfl, rfl, values⟩

/-- What cannot tell related values apart ends in the same way after outcomes that
are alike. -/
theorem bind_eq {left : Except ε α} {right : Except ε β} (alike : Alike related left right)
    {next : α → Except ε γ} {other : β → Except ε γ}
    (each : ∀ first second, related first second → next first = other second) :
    left.bind next = right.bind other := by
  cases alike with
  | fails error => rfl
  | succeeds values => exact each _ _ values

end Alike

namespace Storage

/-- No read tells the storages apart. -/
structure ReadsLike (left right : Storage) : Prop where
  size_eq : left.size = right.size
  read_eq : ∀ offset length,
    (left.read offset length).result = (right.read offset length).result

theorem Shows.readsLike {left right : Storage} {bytes : Bytes} (leftShows : left.Shows bytes)
    (rightShows : right.Shows bytes) : left.ReadsLike right where
  size_eq := leftShows.size_eq.trans rightShows.size_eq.symm
  read_eq offset length := by
    rcases Nat.lt_or_ge bytes.length (offset + length) with beyond | within
    · rw [leftShows.read_beyond offset length beyond, rightShows.read_beyond offset length beyond]
    · rw [leftShows.read_within offset length within, rightShows.read_within offset length within]

namespace ReadsLike

variable {left right : Storage}

theorem window (readsLike : left.ReadsLike right) (start size : Nat) :
    (Storage.window left start size).ReadsLike (.window right start size) where
  size_eq := rfl
  read_eq offset length := by
    simp only [read]
    split
    · exact readsLike.read_eq (start + offset) length
    · rfl

theorem window? (readsLike : left.ReadsLike right) (offset size : Nat) :
    Alike ReadsLike (left.window? offset size) (right.window? offset size) := by
  unfold Storage.window?
  rw [readsLike.size_eq]
  split
  · exact .succeeds (readsLike.window offset size)
  · exact .fails _

end ReadsLike

end Storage

namespace FileSystem

/-- No operation tells the file systems apart, and none tells apart the files that
are opened in them. -/
structure BehavesLike (left right : FileSystem) : Prop where
  entries_eq : left.entries = right.entries
  dataOffset_eq : left.dataOffset = right.dataOffset
  headerHash_eq : left.headerHash = right.headerHash
  find?_eq : ∀ name, left.find? name = right.find? name
  openEntry : ∀ entry, Alike Storage.ReadsLike (left.openEntry entry) (right.openEntry entry)
  openFile : ∀ name, Alike Storage.ReadsLike (left.openFile name) (right.openFile name)
  verify_eq : ∀ entry, (left.verify entry).result = (right.verify entry).result
  walk_eq : ∀ {σ : Type} (visitor : Visitor σ) (state : σ),
    left.walk visitor state = right.walk visitor state

/-- A file system is its table and what can be read of its storage. -/
theorem behavesLike_of_readsLike {left right : FileSystem}
    (storage : left.storage.ReadsLike right.storage) (entries : left.entries = right.entries)
    (dataOffset : left.dataOffset = right.dataOffset)
    (headerHash : left.headerHash = right.headerHash) : left.BehavesLike right := by
  have find (name : String) : left.find? name = right.find? name := by
    rw [find?, find?, entries]
  have openEntry (entry : Entry) :
      Alike Storage.ReadsLike (left.openEntry entry) (right.openEntry entry) := by
    rw [FileSystem.openEntry, FileSystem.openEntry, dataOffset]
    exact storage.window? (right.dataOffset + entry.offset) entry.size
  refine ⟨entries, dataOffset, headerHash, find, openEntry, ?_, ?_, ?_⟩
  · intro name
    rw [openFile, openFile, find name]
    cases right.find? name with
    | none => exact .fails _
    | some entry => exact openEntry entry
  · intro entry
    rw [verify, verify, Access.result_bind, Access.result_bind]
    apply (openEntry entry).bind_eq
    intro leftFile rightFile file
    rw [Access.result_bind, Access.result_bind, Access.result_mapError, Access.result_mapError,
      file.read_eq]
  · intro σ visitor state
    rw [walk, walk, entries]

/-- Mounting storages that show the same bytes fails alike or gives file systems
that behave alike. -/
theorem mount_alike {left right : Storage} {bytes : Bytes} (leftShows : left.Shows bytes)
    (rightShows : right.Shows bytes) (expected : Option Digest) (salt : Option UInt8) :
    Alike BehavesLike (mount left expected salt).result (mount right expected salt).result := by
  rw [result_mount leftShows, result_mount rightShows]
  have storages := leftShows.readsLike rightShows
  exact .map _ fun table => behavesLike_of_readsLike storages rfl rfl rfl

end FileSystem

end Gamecard
