import Gamecard.Cipher.Aes
import Gamecard.Key.Derivation

/-!
# Key slots

A slot table has room for the master key of every generation.  Installing a
key replaces the one that was there; a generation without a slot is ignored.
-/

namespace Gamecard

structure Installation where
  key : Key
  generation : Nat
  isDev : Bool
deriving DecidableEq

structure SlotTable where
  slots : Vector (Option Key) Derivation.generationCount
  /-- Whether the key installed last is a development key. -/
  isDev : Bool
deriving DecidableEq

namespace SlotTable

def empty : SlotTable :=
  ⟨Vector.replicate _ none, false⟩

def get? (table : SlotTable) (generation : Nat) : Option Key :=
  (table.slots[generation]?).join

def install (table : SlotTable) (installation : Installation) : SlotTable :=
  if within : installation.generation < Derivation.generationCount then
    ⟨table.slots.set installation.generation (some installation.key), installation.isDev⟩
  else table

def installed (table : SlotTable) : List (Nat × Key) :=
  (List.range Derivation.generationCount).filterMap fun generation =>
    (table.get? generation).map (generation, ·)

end SlotTable

end Gamecard
