import Gamecard.Key.Cell
import Gamecard.Warning

/-!
# The key store

The store holds a block for every cell; a key counts as set when its bytes are
not all zero.  `read` is the view of a store: two stores with the same view
are equal, `write` changes the view at one cell, and `assign` changes it at
the cells for which a rule gives a value.
-/

namespace Gamecard

/-- A block for every cell. -/
structure Store where
  slots : Vector Bytes Cell.count
  length_slots : ∀ cell : Cell, slots[cell.index].length = cell.size
deriving DecidableEq

namespace Store

def read (store : Store) (cell : Cell) : Block cell.size :=
  ⟨store.slots[cell.index], store.length_slots cell⟩

def tabulate (value : (cell : Cell) → Block cell.size) : Store where
  slots := Vector.ofFn fun index => (value (Cell.ofIndex index)).bytes
  length_slots cell := by
    have same := congrArg (fun other => (value other).bytes) (Cell.ofIndex_index cell)
    simp only [Fin.getElem_fin, Vector.getElem_ofFn, Fin.eta] at same ⊢
    rw [same, (value cell).length_bytes]

def write (store : Store) (cell : Cell) (block : Block cell.size) : Store where
  slots := store.slots.set cell.index block.bytes
  length_slots other := by
    by_cases same : other = cell
    · subst same
      simp [block.length_bytes]
    · have apart : cell.index.val ≠ other.index.val := fun equal =>
        same (Cell.index_injective (Fin.ext equal.symm))
      have kept := store.length_slots other
      simp only [Fin.getElem_fin] at kept ⊢
      rw [Vector.getElem_set_ne _ _ apart]
      exact kept

def empty : Store :=
  tabulate fun cell => Block.zero cell.size

instance : Inhabited Store :=
  ⟨empty⟩

/-- The store with new blocks in the cells that get one. -/
def assign (store : Store) (value : (cell : Cell) → Option (Block cell.size)) : Store :=
  tabulate fun cell => (value cell).getD (store.read cell)

@[ext] theorem ext {left right : Store}
    (same : ∀ cell, left.read cell = right.read cell) : left = right := by
  cases left with
  | mk leftSlots leftLength =>
    cases right with
    | mk rightSlots rightLength =>
      have slots : leftSlots = rightSlots := by
        apply Vector.ext
        intro position within
        have equal := congrArg Block.bytes (same (Cell.ofIndex ⟨position, within⟩))
        simpa [read] using equal
      cases slots
      rfl

@[simp] theorem read_tabulate (value : (cell : Cell) → Block cell.size) (cell : Cell) :
    (tabulate value).read cell = value cell := by
  apply Block.ext
  have same := congrArg (fun other => (value other).bytes) (Cell.ofIndex_index cell)
  simpa only [read, tabulate, Fin.getElem_fin, Vector.getElem_ofFn, Fin.eta] using same

@[simp] theorem read_write_self (store : Store) (cell : Cell) (block : Block cell.size) :
    (store.write cell block).read cell = block := by
  apply Block.ext
  simp [read, write]

theorem read_write_of_ne (store : Store) {cell other : Cell} (block : Block cell.size)
    (apart : other ≠ cell) : (store.write cell block).read other = store.read other := by
  have numbers : cell.index.val ≠ other.index.val := fun equal =>
    apart (Cell.index_injective (Fin.ext equal.symm))
  apply Block.ext
  simp only [read, write, Fin.getElem_fin]
  rw [Vector.getElem_set_ne _ _ numbers]

@[simp] theorem read_empty (cell : Cell) : empty.read cell = Block.zero cell.size :=
  read_tabulate _ cell

@[simp] theorem read_assign (store : Store)
    (value : (cell : Cell) → Option (Block cell.size)) (cell : Cell) :
    (store.assign value).read cell = (value cell).getD (store.read cell) :=
  read_tabulate _ cell

def set? (store : Store) (cell : Cell) : Option (Block cell.size) :=
  (store.read cell).nonzero?

/-- The bytes of a key, zero when it is not set; `none` for an unknown name. -/
def get? (store : Store) (name : KeyName) : Option Bytes :=
  name.cell?.map fun cell => (store.read cell).bytes

/-- Puts exactly these bytes into the store as the key of this name. -/
def register (name : KeyName) (bytes : Bytes) : StateM Store (Except Error Unit) := do
  match name.cell? with
  | none => pure (.error (.unknownKey name))
  | some cell =>
    match Block.ofBytes? cell.size bytes with
    | none => pure (.error (.keyLength name cell.size bytes.length))
    | some block =>
      modify fun store => store.write cell block
      pure (.ok ())

/-- The set key of this name, which has to have the given size. -/
def getBlock (size : Nat) (store : Store) (name : KeyName) : Except Error (Block size) :=
  match store.get? name with
  | none => .error (.missingKey name)
  | some bytes =>
    match Block.ofBytes? size bytes with
    | none => .error (.keyLength name size bytes.length)
    | some block =>
      match block.nonzero? with
      | none => .error (.missingKey name)
      | some key => .ok key

def setKeys (store : Store) : List (KeyName × Bytes) :=
  KeyName.all.filterMap fun name =>
    match store.get? name with
    | none => none
    | some bytes => if bytes.isZero then none else some (name, bytes)

/-- The keys, in order, whose bytes differ from those in an earlier store. -/
def changesSince (store earlier : Store) : List (KeyName × Bytes) :=
  KeyName.all.filterMap fun name =>
    match store.get? name with
    | none => none
    | some bytes => if earlier.get? name = some bytes then none else some (name, bytes)

end Store

end Gamecard
