/-!
# Alignment

Rounding an address to a boundary clears the address bits that lie below the
alignment.  For a power of two this is the greatest multiple not above the
address; any other alignment keeps the plain rule on bits.
-/

namespace Gamecard.Alignment

/-- The address without the bits that are set in `alignment - 1`. -/
def down (address alignment : Nat) : Nat :=
  address - (address &&& (alignment - 1))

/-- The address raised by `alignment - 1` and rounded down. -/
def up (address alignment : Nat) : Nat :=
  down (address + (alignment - 1)) alignment

/-- Whether exactly one bit of the number is set. -/
def isPowerOfTwo (number : Nat) : Bool :=
  number != 0 && (number &&& (number - 1)) == 0

theorem down_le (address alignment : Nat) : down address alignment ≤ address :=
  Nat.sub_le _ _

theorem le_up (address alignment : Nat) : address ≤ up address alignment := by
  have cleared : (address + (alignment - 1)) &&& (alignment - 1) ≤ alignment - 1 :=
    Nat.and_le_right
  simp only [up, down]
  omega

end Gamecard.Alignment
