import Gamecard.CommandLine
import Gamecard.Proofs.Key.Ingestion

/-!
# Taking a printed store over again

The keys that are set are printed as pairs of a name and digits.  An empty
store that takes these pairs over becomes the store that was printed: every
known name is read back, and so are its digits, and the cells without a known
name are zero in every store that operations lead to.
-/

namespace Gamecard.Store

/-- The texts of a key that is set. -/
def printedKey? (store : Store) (name : KeyName) : Option (String × String) :=
  match store.get? name with
  | none => none
  | some bytes => if bytes.isZero then none else some (name.text, Hex.encode bytes)

/-- The pairs of texts that the keys are listed as. -/
def printed (store : Store) : List (String × String) :=
  store.setKeys.map fun (name, bytes) => (name.text, Hex.encode bytes)

def printedLine (pair : String × String) : String :=
  pair.1 ++ " = " ++ pair.2 ++ "\n"

theorem printed_eq_filterMap (store : Store) :
    store.printed = KeyName.all.filterMap store.printedKey? := by
  rw [printed, setKeys, List.map_filterMap]
  congr 1
  funext name
  unfold printedKey?
  cases store.get? name with
  | none => rfl
  | some bytes => exact apply_ite (Option.map _) _ _ _

theorem listKeys_eq (store : Store) :
    CommandLine.listKeys store = String.join (store.printed.map printedLine) := by
  rw [CommandLine.listKeys, printed, List.map_map]
  rfl

/-- A printed pair puts the block back into the cell that it comes from. -/
theorem ingest_printed (store : Store) {name : KeyName} {cell : Cell}
    (found : name.cell? = some cell) (block : Block cell.size) :
    store.ingest name.text (Hex.encode block.bytes) = (store.write cell block, none) :=
  store.ingest_written found block (KeyName.map_toLower_text name) (Hex.map_toUpper_toHex block)

/-- While printed pairs are taken over, every cell either has its value again or
is still zero and its name is yet to come. -/
def Pending (source store : Store) (names : List KeyName) : Prop :=
  ∀ cell : Cell, store.read cell = source.read cell ∨
    store.read cell = Block.zero cell.size ∧ cell.name ∈ names

namespace Pending

variable {source store : Store} {name : KeyName} {rest : List KeyName} {cell : Cell}

theorem eq_source (pending : Pending source store []) : store = source := by
  apply Store.ext
  intro cell
  rcases pending cell with equal | ⟨_, member⟩
  · exact equal
  · cases member

/-- A cell that the first name does not reach has the same two possibilities
without this name. -/
theorem of_ne (pending : Pending source store (name :: rest)) (found : name.cell? = some cell)
    {other : Cell} (apart : other ≠ cell) :
    store.read other = source.read other ∨
      store.read other = Block.zero other.size ∧ other.name ∈ rest := by
  rcases pending other with equal | ⟨zero, member⟩
  · exact .inl equal
  · rcases List.mem_cons.mp member with same | later
    · have known : other.name.isKnown = true := by
        rw [same]
        exact KeyName.isKnown_of_cell? found
      have own := Cell.cell?_name known
      rw [same, found] at own
      exact absurd (Option.some.inj own).symm apart
    · exact .inr ⟨zero, later⟩

/-- A key that is not set is not printed, and its cell is as it should be. -/
theorem skip (pending : Pending source store (name :: rest)) (found : name.cell? = some cell)
    (unset : (source.read cell).bytes.isZero = true) : Pending source store rest := by
  intro other
  by_cases same : other = cell
  · subst same
    rcases pending other with equal | ⟨zero, _⟩
    · exact .inl equal
    · exact .inl (zero.trans (Block.eq_zero_of_isZero unset).symm)
  · exact pending.of_ne found same

theorem put (pending : Pending source store (name :: rest)) (found : name.cell? = some cell) :
    Pending source (store.write cell (source.read cell)) rest := by
  intro other
  by_cases same : other = cell
  · subst same
    exact .inl (read_write_self store other (source.read other))
  · rw [read_write_of_ne store _ same]
    exact pending.of_ne found same

end Pending

theorem ingestAll_printed {source store : Store} {names : List KeyName}
    (known : ∀ name ∈ names, name.isKnown = true) (pending : Pending source store names) :
    store.ingestAll (names.filterMap source.printedKey?) = (source, []) := by
  induction names generalizing store with
  | nil =>
      rw [pending.eq_source]
      rfl
  | cons name rest induction =>
      rw [List.forall_mem_cons] at known
      obtain ⟨cell, found⟩ := Option.isSome_iff_exists.mp
        ((KeyName.isSome_cell? name).trans known.1)
      by_cases unset : (source.read cell).bytes.isZero = true
      · have skipped : source.printedKey? name = none := by
          simp only [printedKey?, get?, found, Option.map_some, unset, if_true]
        rw [List.filterMap_cons_none skipped]
        exact induction known.2 (pending.skip found unset)
      · have listed : source.printedKey? name =
            some (name.text, Hex.encode (source.read cell).bytes) := by
          simp only [printedKey?, get?, found, Option.map_some, if_neg unset]
        have stored : store.ingestAll ((name.text, Hex.encode (source.read cell).bytes) ::
            rest.filterMap source.printedKey?) =
            (store.write cell (source.read cell)).ingestAll
              (rest.filterMap source.printedKey?) := by
          rw [ingestAll, ingest_printed store found]
          rfl
        rw [List.filterMap_cons_some listed, stored]
        exact induction known.2 (pending.put found)

theorem Catalogued.ingestAll_printed {store : Store} (catalogued : Catalogued store) :
    empty.ingestAll store.printed = (store, []) := by
  rw [printed_eq_filterMap]
  apply Store.ingestAll_printed
  · intro name member
    exact KeyName.isKnown_of_mem_all member
  · intro cell
    rw [read_empty]
    cases known : cell.name.isKnown with
    | false => exact .inl (catalogued cell known).symm
    | true => exact .inr ⟨rfl, KeyName.mem_all_of_isKnown known⟩

/-- Whatever operations made a store, the keys that are listed for it make it
again from the empty one and cause no warning. -/
theorem ingestAll_printed_reached (operations : List Operation) :
    CommandLine.listKeys (reached operations) =
        String.join ((reached operations).printed.map printedLine) ∧
      empty.ingestAll (reached operations).printed = (reached operations, []) ∧
      ∀ generation : Fin 32, generation.val < 6 →
        (reached operations).read (.entry .masterKekSource generation) = Block.zero 16 ∧
          (reached operations).read (.entry .package1MacKey generation) = Block.zero 16 := by
  have catalogued := catalogued_reached operations
  refine ⟨listKeys_eq _, catalogued.ingestAll_printed, ?_⟩
  intro generation early
  have unknown (family : Family) (first : family.first = 6)
      (inside : generation.val < family.stop) :
      (Cell.entry family ⟨generation.val, inside⟩).name.isKnown = false := by
    have value := Cell.toNat_ofNat_generation (⟨generation.val, inside⟩ : Fin family.stop)
    simp only [Cell.name, KeyName.isKnown, value, first,
      decide_eq_false (Nat.not_le.mpr early), Bool.false_and]
  exact ⟨catalogued _ (unknown .masterKekSource rfl generation.isLt),
    catalogued _ (unknown .package1MacKey rfl generation.isLt)⟩

end Gamecard.Store
