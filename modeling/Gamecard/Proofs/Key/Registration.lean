import Gamecard.Proofs.Key.Ingestion

/-!
# Keys do not get in each other's way

Registering a key writes to its own cell and no other, and it says why if it writes
nowhere.  The same key taken over as a pair of texts leads to the same store.  What
is read back is read by name, so every known name has its own bytes, and listing the
keys that are set shows each of them once.
-/

namespace Gamecard

namespace KeyName

/-- The number of bytes of a key of this kind, whatever its generation. -/
def size : KeyName → Nat
  | .scalar key => key.size
  | .generational family _ => family.size

theorem size_of_cell? {name : KeyName} {cell : Cell} (found : name.cell? = some cell) :
    cell.size = name.size := by
  rw [← name_cell? found]
  cases cell <;> rfl

/-- The entry of the catalog that a name belongs to. -/
def entry : KeyName → CatalogEntry
  | .scalar key => .scalar key
  | .generational family _ => .perGeneration family

theorem entry_of_mem_names {name : KeyName} {entry : CatalogEntry}
    (member : name ∈ entry.names) : name.entry = entry := by
  cases entry with
  | scalar key =>
      rw [List.mem_singleton.mp member]
      rfl
  | perGeneration family =>
      obtain ⟨generation, _, same⟩ := List.mem_map.mp member
      rw [← same]
      rfl

theorem nodup_generations (entry : CatalogEntry) : entry.generations.Nodup := by
  cases entry with
  | scalar key => exact List.nodup_nil
  | perGeneration family =>
      apply List.Nodup.map_on
      · intro first firstWithin second secondWithin same
        have limit := family.stop_le
        rw [List.mem_range'_1] at firstWithin secondWithin
        have numbers := congrArg UInt8.toNat same
        rwa [UInt8.toNat_ofNat_of_lt' (by change first < 256; omega),
          UInt8.toNat_ofNat_of_lt' (by change second < 256; omega)] at numbers
      · exact List.nodup_range'

theorem nodup_names (entry : CatalogEntry) : entry.names.Nodup := by
  cases entry with
  | scalar key => exact List.nodup_singleton _
  | perGeneration family =>
      apply (nodup_generations (.perGeneration family)).map
      intro first second same
      cases same
      rfl

theorem nodup_entries : CatalogEntry.all.Nodup := by
  have scalars : Scalar.all.Nodup := nodup_scalarTexts.of_map
  have families : Family.all.Nodup := nodup_familyTexts.of_map
  apply List.Nodup.append
  · exact scalars.map fun _ _ same => CatalogEntry.scalar.inj same
  · exact families.map fun _ _ same => CatalogEntry.perGeneration.inj same
  · intro entry scalar family
    obtain ⟨key, _, fixed⟩ := List.mem_map.mp scalar
    obtain ⟨other, _, generational⟩ := List.mem_map.mp family
    rw [← fixed] at generational
    cases generational

/-- No name is listed twice. -/
theorem nodup_all : KeyName.all.Nodup := by
  apply List.nodup_flatMap.mpr
  constructor
  · intro entry _
    exact nodup_names entry
  · apply nodup_entries.imp
    intro first second different name inFirst inSecond
    exact different ((entry_of_mem_names inFirst).symm.trans (entry_of_mem_names inSecond))

end KeyName

namespace Store

variable {store next : Store} {name : KeyName} {bytes : Bytes}

/-- All that registering can do when it fails. -/
theorem register_eq_error {error : Error}
    (failed : ((register name bytes).run store).1 = .error error) :
    (error = if name.isKnown then .keyLength name name.size bytes.length
        else .unknownKey name) ∧
      ((register name bytes).run store).2 = store := by
  have registers := registers_run store name bytes
  generalize (register name bytes).run store = ended at registers failed ⊢
  cases registers with
  | written => cases failed
  | unknown missing =>
      have unknown : name.isKnown = false := by
        rw [← KeyName.isSome_cell?, missing]
        rfl
      cases failed
      exact ⟨by rw [unknown]; rfl, rfl⟩
  | unfit found =>
      cases failed
      rw [if_pos (KeyName.isKnown_of_cell? found), KeyName.size_of_cell? found]
      exact ⟨rfl, rfl⟩

theorem exists_register_iff (store : Store) (name : KeyName) (bytes : Bytes) :
    (∃ next, (register name bytes).run store = (.ok (), next)) ↔
      name.isKnown = true ∧ bytes.length = name.size := by
  constructor
  · rintro ⟨next, registered⟩
    obtain ⟨cell, block, found, same, _⟩ := register_eq_ok_iff.mp registered
    rw [← same, block.length_bytes]
    exact ⟨KeyName.isKnown_of_cell? found, KeyName.size_of_cell? found⟩
  · rintro ⟨known, long⟩
    rw [← KeyName.isSome_cell?] at known
    obtain ⟨cell, found⟩ := Option.isSome_iff_exists.mp known
    have fills : bytes.length = cell.size := long.trans (KeyName.size_of_cell? found).symm
    exact ⟨_, register_eq_ok_iff.mpr ⟨cell, ⟨bytes, fills⟩, found, rfl, rfl⟩⟩

theorem isSome_get? (store : Store) (name : KeyName) :
    (store.get? name).isSome = name.isKnown := by
  rw [get?, Option.isSome_map, KeyName.isSome_cell?]

theorem get?_write (store : Store) {cell : Cell} (found : name.cell? = some cell)
    (block : Block cell.size) : (store.write cell block).get? name = some block.bytes := by
  rw [get?, found, Option.map_some, read_write_self]

theorem get?_write_of_ne (store : Store) {cell : Cell} (found : name.cell? = some cell)
    (block : Block cell.size) {other : KeyName} (different : other ≠ name) :
    (store.write cell block).get? other = store.get? other := by
  unfold get?
  cases reached : other.cell? with
  | none => rfl
  | some target =>
      have apart : target ≠ cell := by
        intro same
        exact different (KeyName.cell?_injective (same ▸ reached) found)
      rw [Option.map_some, Option.map_some, read_write_of_ne store block apart]

theorem get?_register (registered : (register name bytes).run store = (.ok (), next)) :
    next.get? name = some bytes ∧
      ∀ other, other ≠ name → next.get? other = store.get? other := by
  obtain ⟨cell, block, found, same, written⟩ := register_eq_ok_iff.mp registered
  subst same written
  refine ⟨get?_write store found block, ?_⟩
  intro other different
  exact get?_write_of_ne store found block different

/-- The same key as a pair of texts leads to the same store. -/
theorem ingest_eq_register (registered : (register name bytes).run store = (.ok (), next))
    {spelled written : String} (named : spelled.map Char.toLower = name.text)
    (digits : written.map Char.toUpper = Hex.encode bytes) :
    store.ingest spelled written = (next, none) := by
  obtain ⟨cell, block, found, same, result⟩ := register_eq_ok_iff.mp registered
  subst same result
  exact ingest_written store found block named digits

theorem mem_setKeys_iff (store : Store) (name : KeyName) (bytes : Bytes) :
    (name, bytes) ∈ store.setKeys ↔
      name.isKnown = true ∧ store.get? name = some bytes ∧ bytes.isZero = false := by
  rw [setKeys, List.mem_filterMap]
  constructor
  · rintro ⟨other, member, listed⟩
    split at listed
    next => cases listed
    next value present =>
      split at listed
      next => cases listed
      next set =>
        cases listed
        exact ⟨KeyName.isKnown_of_mem_all member, present, Bool.not_eq_true _ ▸ set⟩
  · rintro ⟨known, present, set⟩
    refine ⟨name, KeyName.mem_all_of_isKnown known, ?_⟩
    simp only [present, set, Bool.false_eq_true, if_false]

/-- What is listed for different items stays different if the item can be told from it. -/
theorem nodup_map_filterMap {α β : Type} {select : α → Option β} {origin : β → α}
    (own : ∀ item value, select item = some value → origin value = item) {items : List α}
    (different : items.Nodup) : ((items.filterMap select).map origin).Nodup := by
  rw [List.map_filterMap]
  apply different.filterMap
  intro first second item inFirst inSecond
  obtain ⟨firstValue, firstListed, firstOrigin⟩ := Option.map_eq_some_iff.mp inFirst
  obtain ⟨secondValue, secondListed, secondOrigin⟩ := Option.map_eq_some_iff.mp inSecond
  calc
    first = origin firstValue := (own first firstValue firstListed).symm
    _ = item := firstOrigin
    _ = origin secondValue := secondOrigin.symm
    _ = second := own second secondValue secondListed

theorem nodup_setKeys (store : Store) : (store.setKeys.map Prod.fst).Nodup := by
  apply nodup_map_filterMap _ KeyName.nodup_all
  intro name pair listed
  split at listed
  next => cases listed
  next =>
    split at listed
    next => cases listed
    next =>
      cases listed
      rfl

/-- Registering some bytes as a key succeeds exactly if the name is known and they are
as many as the key has.  Then they are read back under this name, and under every
other name what was there before, and taking over the name and their digits, in any
case of letters, does the same without a warning.  When it fails the error tells which
of the two is wrong, and the store is as it was.  Every known name has its bytes, and
the keys listed as set are those with bytes that are not all zero, each listed once. -/
theorem register_independent (store : Store) (name : KeyName) (bytes : Bytes) :
    ((∃ next, (register name bytes).run store = (.ok (), next)) ↔
        name.isKnown = true ∧ bytes.length = name.size) ∧
      (∀ next, (register name bytes).run store = (.ok (), next) →
        next.get? name = some bytes ∧
          (∀ other, other ≠ name → next.get? other = store.get? other) ∧
          ∀ spelled written : String, spelled.map Char.toLower = name.text →
            written.map Char.toUpper = Hex.encode bytes →
              store.ingest spelled written = (next, none)) ∧
      (∀ error, ((register name bytes).run store).1 = .error error →
        (error = if name.isKnown then .keyLength name name.size bytes.length
            else .unknownKey name) ∧
          ((register name bytes).run store).2 = store) ∧
      (∀ other, (store.get? other).isSome = other.isKnown) ∧
      (∀ other value, (other, value) ∈ store.setKeys ↔
        other.isKnown = true ∧ store.get? other = some value ∧ value.isZero = false) ∧
      (store.setKeys.map Prod.fst).Nodup := by
  refine ⟨exists_register_iff store name bytes, ?_, ?_, isSome_get? store,
    mem_setKeys_iff store, nodup_setKeys store⟩
  · intro next registered
    obtain ⟨own, others⟩ := get?_register registered
    refine ⟨own, others, ?_⟩
    intro spelled written named digits
    exact ingest_eq_register registered named digits
  · intro error failed
    exact register_eq_error failed

end Store

end Gamecard
