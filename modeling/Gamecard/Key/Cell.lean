import Gamecard.Key.Name

/-!
# Cells of the key store

Every fixed name has a cell, and every family has a cell for each generation
up to its last one.  A family whose first generation is not the zeroth has
cells that no known name reaches.  The cells are numbered, and the number of a
cell gives the cell back.
-/

namespace Gamecard

inductive Cell where
  | scalar (key : Scalar)
  | entry (family : Family) (generation : Fin family.stop)
deriving DecidableEq

namespace Cell

@[reducible] def size : Cell → Nat
  | .scalar key => key.size
  | .entry family _ => family.size

def name : Cell → KeyName
  | .scalar key => .scalar key
  | .entry family generation => .generational family (UInt8.ofNat generation.val)

def all : List Cell :=
  Scalar.all.map .scalar ++
    Family.all.flatMap fun family => (List.finRange family.stop).map (.entry family)

def count : Nat := 479

/-- The number of cells in all families before this one. -/
def start : Family → Nat
  | .keyblobKeySource => 0
  | .keyblobKey => 6
  | .keyblobMacKey => 12
  | .encryptedKeyblob => 18
  | .keyblob => 24
  | .marikoMasterKekSource => 30
  | .tsecAuthSignature => 62
  | .tsecRootKey => 88
  | .masterKekSource => 114
  | .package1MacKey => 146
  | .marikoAesClassKey => 178
  | .masterKek => 190
  | .masterKey => 222
  | .package1Key => 254
  | .package2Key => 286
  | .titlekek => 318
  | .keyAreaKeyApplication => 350
  | .keyAreaKeyOcean => 382
  | .keyAreaKeySystem => 414

def number : Cell → Nat
  | .scalar key => key.ctorIdx
  | .entry family generation => Scalar.all.length + start family + generation.val

theorem map_number_all : all.map number = List.range count := by
  decide +kernel

theorem length_all : all.length = count := by
  have lengths := congrArg List.length map_number_all
  simpa using lengths

theorem mem_all (cell : Cell) : cell ∈ all := by
  cases cell with
  | scalar key =>
    apply List.mem_append_left
    cases key <;> simp [Scalar.all]
  | entry family generation =>
    apply List.mem_append_right
    refine List.mem_flatMap.mpr ⟨family, ?_, by simp⟩
    cases family <;> simp [Family.all]

theorem number_getElem {position : Nat} (within : position < all.length) :
    all[position].number = position := by
  have inside : position < (all.map number).length := by simpa using within
  have mapped : (all.map number)[position] = position := by
    simp [map_number_all]
  simpa using mapped

theorem getElem?_number (cell : Cell) : all[cell.number]? = some cell := by
  obtain ⟨position, within, found⟩ := List.getElem_of_mem (mem_all cell)
  have same := number_getElem within
  rw [found] at same
  rw [same]
  exact List.getElem?_eq_some_iff.mpr ⟨within, found⟩

theorem number_lt (cell : Cell) : cell.number < count := by
  have found := getElem?_number cell
  rw [← length_all]
  exact (List.getElem?_eq_some_iff.mp found).1

def index (cell : Cell) : Fin count :=
  ⟨cell.number, number_lt cell⟩

def ofIndex (index : Fin count) : Cell :=
  all.get ⟨index.val, by rw [length_all]; exact index.isLt⟩

@[simp] theorem ofIndex_index (cell : Cell) : ofIndex cell.index = cell := by
  have found := getElem?_number cell
  exact (List.getElem?_eq_some_iff.mp found).2

@[simp] theorem index_ofIndex (index : Fin count) : (ofIndex index).index = index :=
  Fin.ext (number_getElem _)

theorem index_injective {left right : Cell} (same : left.index = right.index) :
    left = right := by
  rw [← ofIndex_index left, same, ofIndex_index]

end Cell

namespace KeyName

def cell? : KeyName → Option Cell
  | .scalar key => some (.scalar key)
  | .generational family generation =>
    if within : family.first ≤ generation.toNat ∧ generation.toNat < family.stop then
      some (.entry family ⟨generation.toNat, within.2⟩)
    else none

theorem isSome_cell? (name : KeyName) : name.cell?.isSome = name.isKnown := by
  cases name with
  | scalar key => rfl
  | generational family generation =>
    by_cases within : family.first ≤ generation.toNat ∧ generation.toNat < family.stop
    · simp [cell?, isKnown, within]
    · have beyond : ¬(family.first ≤ generation.toNat && generation.toNat < family.stop) = true := by
        simpa using within
      simp only [cell?, isKnown, within, dif_neg, not_false_eq_true, Option.isSome_none]
      simpa using beyond

theorem name_cell? {name : KeyName} {cell : Cell} (found : name.cell? = some cell) :
    cell.name = name := by
  cases name with
  | scalar key =>
    cases found
    rfl
  | generational family generation =>
    simp only [cell?] at found
    split at found
    · cases found
      simp [Cell.name]
    · cases found

theorem cell?_injective {left right : KeyName} {cell : Cell}
    (leftCell : left.cell? = some cell) (rightCell : right.cell? = some cell) :
    left = right := by
  rw [← name_cell? leftCell, name_cell? rightCell]

end KeyName

end Gamecard
