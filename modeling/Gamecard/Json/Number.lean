import Gamecard.Double.Shortest

/-!
# Numbers in JSON

A number is whole or a double.  A double is written with the fewest digits that
read back, with a point from the place -5 up to the place 15 of its first digit
and with an exponent elsewhere.
-/

namespace Gamecard

/-- The exponents of the first digit for which a decimal is written without one. -/
structure PlainRange where
  first : Int
  last : Int

def PlainRange.json : PlainRange := ⟨-5, 15⟩

namespace Decimal

/-- Digits with a point behind the first `whole` of them, and at least one digit
on either side of it. -/
def pointed (whole : Nat) (digits : List Char) : List Char :=
  let fraction := digits.drop whole
  digits.take whole ++ '.' :: if fraction.isEmpty then ['0'] else fraction

def text (range : PlainRange) (decimal : Decimal) : List Char :=
  let digits := Nat.toDigits 10 decimal.digits
  let first : Int := decimal.exponent + digits.length - 1
  if range.first ≤ first ∧ first ≤ range.last then
    let leading := List.replicate (-first).toNat '0'
    let trailing := List.replicate decimal.exponent.toNat '0'
    pointed (first.toNat + 1) (leading ++ digits ++ trailing)
  else
    let mantissa := if digits.length = 1 then digits else pointed 1 digits
    mantissa ++ 'e' :: (if first < 0 then '-' else '+') :: Nat.toDigits 10 first.natAbs

end Decimal

inductive Number where
  | integer (value : Int)
  /-- A double and its sign, which zero has as well. -/
  | double (negative : Bool) (magnitude : Double)
deriving DecidableEq, Inhabited

def Number.text : Number → String
  | .integer value => toString value
  | .double negative magnitude =>
    String.ofList ((if negative then ['-'] else []) ++
      magnitude.shortest.text PlainRange.json)

end Gamecard
