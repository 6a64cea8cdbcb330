/-!
# Doubles

The finite numbers of the binary format with fifty-three bits of precision,
without their sign, and how an exact ratio becomes one of them: by going to the
nearest, and of two that are equally near to the one with the even mantissa.
A product or quotient of doubles is the exact one, rounded in this way.
-/

namespace Gamecard

structure Ratio where
  numerator : Nat
  denominator : Nat
deriving DecidableEq

namespace Ratio

def scale (ratio : Ratio) (shift : Int) : Ratio :=
  ⟨ratio.numerator <<< shift.toNat, ratio.denominator <<< (-shift).toNat⟩

def floor (ratio : Ratio) : Nat :=
  ratio.numerator / ratio.denominator

/-- The whole number nearest to the ratio; a half goes to the even one. -/
def round (ratio : Ratio) : Nat :=
  let rest := 2 * (ratio.numerator % ratio.denominator)
  if rest < ratio.denominator ∨ (rest = ratio.denominator ∧ ratio.floor % 2 = 0) then
    ratio.floor
  else ratio.floor + 1

end Ratio

/-- The number `mantissa * 2 ^ exponent`. -/
structure Double where
  mantissa : Nat
  exponent : Int
deriving DecidableEq

namespace Double

/-- The least mantissa of full precision, which has fifty-three bits. -/
def fullMantissa : Nat := 0x10000000000000

/-- The least exponent; numbers with it may have a shorter mantissa. -/
def leastExponent : Int := -1074

def greatestExponent : Int := 971

def zero : Double := ⟨0, leastExponent⟩

instance : Inhabited Double := ⟨zero⟩

def isFinite (double : Double) : Bool :=
  double.exponent ≤ greatestExponent

/-- The double nearest to a ratio.  The difference of the bit lengths leaves two
exponents for a mantissa of full precision, and the smaller one is taken if the
mantissa fits. -/
def ofRatio (ratio : Ratio) : Double :=
  if ratio.numerator = 0 then zero
  else
    let smaller : Int := (ratio.numerator.log2 : Int) - ratio.denominator.log2 - 53
    let fits := (ratio.scale (-smaller)).floor < 2 * fullMantissa
    let exponent := max leastExponent (if fits then smaller else smaller + 1)
    let mantissa := (ratio.scale (-exponent)).round
    if mantissa = 2 * fullMantissa then ⟨fullMantissa, exponent + 1⟩
    else ⟨mantissa, exponent⟩

def ofNat (number : Nat) : Double :=
  ofRatio ⟨number, 1⟩

def powerOfTen (exponent : Nat) : Double :=
  ofNat (Nat.pow 10 exponent)

def mul (left right : Double) : Double :=
  ofRatio (Ratio.scale ⟨left.mantissa * right.mantissa, 1⟩ (left.exponent + right.exponent))

def div (left right : Double) : Double :=
  ofRatio (Ratio.scale ⟨left.mantissa, right.mantissa⟩ (left.exponent - right.exponent))

end Double

end Gamecard
