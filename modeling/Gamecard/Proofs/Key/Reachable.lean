import Gamecard.Key.Operation
import Gamecard.Proofs.Derivation.ClosedForm
import Gamecard.Proofs.Key.Names

/-!
# Stores that operations lead to

None of the operations on a store writes to a cell that no known name reaches, so
such a cell stays zero however long the run is.
-/

namespace Gamecard

theorem Cell.isKnown_name_of_cell? {name : KeyName} {cell : Cell}
    (found : name.cell? = some cell) : cell.name.isKnown = true := by
  rw [KeyName.name_cell? found]
  exact KeyName.isKnown_of_cell? found

theorem Cell.toNat_ofNat_generation {family : Family} (generation : Fin family.stop) :
    (UInt8.ofNat generation.val).toNat = generation.val := by
  have bounded := family.stop_le
  have inside := generation.isLt
  exact UInt8.toNat_ofNat_of_lt' (by change generation.val < 256; omega)

/-- A known name belongs to the cell that it was taken from. -/
theorem Cell.cell?_name {cell : Cell} (known : cell.name.isKnown = true) :
    cell.name.cell? = some cell := by
  cases cell with
  | scalar key => rfl
  | entry family generation =>
      have value := Cell.toNat_ofNat_generation generation
      simp only [Cell.name, KeyName.isKnown, Bool.and_eq_true, decide_eq_true_eq, value]
        at known
      simp only [Cell.name, KeyName.cell?, value, dif_pos known]

/-- The cells that no known name reaches. -/
theorem Cell.unknown_cases {cell : Cell} (unknown : cell.name.isKnown = false) :
    (∃ generation, cell = .entry .masterKekSource generation ∧ generation.val < 6) ∨
      ∃ generation, cell = .entry .package1MacKey generation ∧ generation.val < 6 := by
  cases cell with
  | scalar key => cases unknown
  | entry family generation =>
      have value := Cell.toNat_ofNat_generation generation
      have inside := generation.isLt
      simp only [Cell.name, KeyName.isKnown, value, inside, decide_true, Bool.and_true,
        decide_eq_false_iff_not] at unknown
      cases family with
      | masterKekSource => exact .inl ⟨generation, rfl, Nat.not_le.mp unknown⟩
      | package1MacKey => exact .inr ⟨generation, rfl, Nat.not_le.mp unknown⟩
      | _ => exact absurd (Nat.zero_le _) unknown

namespace Store

/-- All that registering can do: it writes to the cell of the name, or it fails and
leaves the store alone. -/
inductive Registers (store : Store) (name : KeyName) (bytes : Bytes) :
    Except Error Unit × Store → Prop where
  | written {cell : Cell} {block : Block cell.size} : name.cell? = some cell →
      block.bytes = bytes → Registers store name bytes (.ok (), store.write cell block)
  | unknown : name.cell? = none →
      Registers store name bytes (.error (.unknownKey name), store)
  | unfit {cell : Cell} : name.cell? = some cell → bytes.length ≠ cell.size →
      Registers store name bytes (.error (.keyLength name cell.size bytes.length), store)

theorem registers_run (store : Store) (name : KeyName) (bytes : Bytes) :
    Registers store name bytes ((register name bytes).run store) := by
  cases found : name.cell? with
  | none =>
      simp only [register, found]
      exact .unknown found
  | some cell =>
      cases filled : Block.ofBytes? cell.size bytes with
      | none =>
          simp only [register, found, filled]
          exact .unfit found (Block.ofBytes?_eq_none_iff.mp filled)
      | some block =>
          simp only [register, found, filled]
          exact .written found (Block.ofBytes?_eq_some_iff.mp filled).symm

theorem register_eq_ok_iff {store next : Store} {name : KeyName} {bytes : Bytes} :
    (register name bytes).run store = (.ok (), next) ↔
      ∃ (cell : Cell) (block : Block cell.size), name.cell? = some cell ∧
        block.bytes = bytes ∧ next = store.write cell block := by
  constructor
  · intro registered
    have registers := registers_run store name bytes
    rw [registered] at registers
    cases registers with
    | written found same => exact ⟨_, _, found, same, rfl⟩
  · rintro ⟨cell, block, found, same, written⟩
    subst same written
    simp only [register, found, Block.ofBytes?_bytes]
    rfl

/-- The cells that no known name reaches are zero. -/
def Catalogued (store : Store) : Prop :=
  ∀ cell : Cell, cell.name.isKnown = false → store.read cell = Block.zero cell.size

theorem catalogued_empty : Catalogued empty := by
  intro cell _
  exact read_empty cell

namespace Catalogued

variable {store : Store}

theorem write (catalogued : Catalogued store) {cell : Cell}
    (known : cell.name.isKnown = true) (block : Block cell.size) :
    Catalogued (store.write cell block) := by
  intro other unknown
  have apart : other ≠ cell := by
    intro same
    rw [same, known] at unknown
    cases unknown
  rw [read_write_of_ne store block apart]
  exact catalogued other unknown

theorem register (catalogued : Catalogued store) (name : KeyName) (bytes : Bytes) :
    Catalogued ((Store.register name bytes).run store).2 := by
  have registers := registers_run store name bytes
  generalize (Store.register name bytes).run store = ended at registers
  cases registers with
  | written found same => exact catalogued.write (Cell.isKnown_name_of_cell? found) _
  | unknown missing => exact catalogued
  | unfit found long => exact catalogued

theorem ingest (catalogued : Catalogued store) (name value : String) :
    Catalogued (store.ingest name value).1 := by
  simp only [Store.ingest]
  split
  · exact catalogued
  · split
    · exact catalogued
    · split
      next => exact catalogued
      next cell found =>
        obtain ⟨known, _, reached⟩ := Option.bind_eq_some_iff.mp found
        exact catalogued.write (Cell.isKnown_name_of_cell? reached) _

theorem ingestAll (catalogued : Catalogued store) (pairs : List (String × String)) :
    Catalogued (store.ingestAll pairs).1 := by
  induction pairs generalizing store with
  | nil => exact catalogued
  | cons pair rest induction => exact induction (catalogued.ingest pair.1 pair.2)

theorem derive (catalogued : Catalogued store) : Catalogued store.derive.1 := by
  have agree := Derivation.agree_derive store
  intro cell unknown
  have before := catalogued cell unknown
  rcases Cell.unknown_cases unknown with ⟨generation, same, _⟩ | ⟨generation, same, early⟩
  · subst same
    rw [agree (.entry .masterKekSource generation) (Nat.le_refl 0)]
    exact before
  · subst same
    rw [Derivation.read_derive, Derivation.getD_outcome? agree]
    simp only [Derivation.closedForm, dif_neg (Nat.not_le.mpr early)]
    exact before

/-- No operation writes to a cell that no known name reaches. -/
theorem apply (catalogued : Catalogued store) (operation : Operation) :
    Catalogued (store.apply operation) := by
  cases operation with
  | register name bytes => exact catalogued.register name bytes
  | ingest name value => exact catalogued.ingest name value
  | ingestAll pairs => exact catalogued.ingestAll pairs
  | derive => exact catalogued.derive

theorem foldl (catalogued : Catalogued store) (operations : List Operation) :
    Catalogued (operations.foldl Store.apply store) := by
  induction operations generalizing store with
  | nil => exact catalogued
  | cons operation rest induction => exact induction (catalogued.apply operation)

end Catalogued

theorem catalogued_reached (operations : List Operation) : Catalogued (reached operations) :=
  catalogued_empty.foldl operations

end Store

end Gamecard
