import Gamecard.Double

/-!
# Shortest decimals

Every number in an interval around a double rounds to it.  The shortest decimal
of the double is the one in the interval with the fewest digits, and of several
the nearest, where of two that are equally near the even one is taken.  All
comparisons are made between whole numbers.
-/

namespace Gamecard

structure Decimal where
  digits : Nat
  exponent : Int
deriving DecidableEq

namespace Double

/-- The lower end of the interval, in quarters of the last bit.  Below the least
mantissa of full precision the doubles lie twice as close. -/
def lowerEnd (double : Double) : Nat :=
  if double.mantissa = fullMantissa ∧ leastExponent < double.exponent then
    4 * double.mantissa - 1
  else 4 * double.mantissa - 2

/-- The upper end of the interval, in quarters of the last bit. -/
def upperEnd (double : Double) : Nat :=
  4 * double.mantissa + 2

/-- A quarter of the last bit, in units of a power of ten. -/
def quarter (double : Double) (place : Int) : Ratio :=
  Ratio.scale ⟨Nat.pow 10 (-place).toNat, Nat.pow 10 place.toNat⟩ (double.exponent - 2)

/-- Whether `digits` units of a power of ten round to the double.  The ends of
the interval do so if the mantissa is even. -/
def roundsBack (double : Double) (place : Int) (digits : Nat) : Bool :=
  let quarter := double.quarter place
  let lower := double.lowerEnd * quarter.numerator
  let upper := double.upperEnd * quarter.numerator
  let point := digits * quarter.denominator
  if double.mantissa % 2 = 0 then lower ≤ point && point ≤ upper
  else lower < point && point < upper

/-- The nearest number of units of a power of ten that rounds to the double, if
there is one.  It is one of the two neighbours of the double. -/
def unitsAt? (double : Double) (place : Int) : Option Nat :=
  let quarter := double.quarter place
  let exact : Ratio := ⟨4 * double.mantissa * quarter.numerator, quarter.denominator⟩
  let nearest := exact.round
  if double.roundsBack place nearest then some nearest
  else [exact.floor, exact.floor + 1].find? (double.roundsBack place)

def exactDecimal (double : Double) : Decimal :=
  ⟨(double.mantissa * Nat.pow 5 (-double.exponent).toNat) <<< double.exponent.toNat,
    min 0 double.exponent⟩

/-- The shortest decimal with its last digit at one of `count` places, of which
`place` is the highest. -/
def shortestFrom (double : Double) (place : Int) : Nat → Decimal
  | 0 => double.exactDecimal
  | count + 1 =>
    match double.unitsAt? place with
    | some digits => ⟨digits, place⟩
    | none => double.shortestFrom (place - 1) count

/-- The shortest decimal of the double.  No double has a digit above the place
308, and seventeen digits always suffice, so that no place below -345 counts. -/
def shortest (double : Double) : Decimal :=
  if double.mantissa = 0 then ⟨0, 0⟩ else double.shortestFrom 308 654

end Double

end Gamecard
