import Gamecard.Json.Number

/-!
# Reading numbers in JSON

A number without point and exponent is whole, as long as it fits into
sixty-four bits.  Any other number becomes a double, and so does zero behind a
minus sign.  The first digits, as many as fit into sixty-four bits, are rounded
to a double, which is then multiplied or divided by a rounded power of ten, so
that the last bit may differ from that of the nearest double.
-/

namespace Gamecard.Number

structure Parts where
  negative : Bool
  whole : List Char
  fraction : List Char
  exponent : Int
  plain : Bool

/-- The digits at the start of a text, at least one, and what follows them. -/
def digits? (text : List Char) : Option (List Char × List Char) :=
  let digits := text.takeWhile Char.isDigit
  if digits.isEmpty then none else some (digits, text.dropWhile Char.isDigit)

def withDigit (number : Nat) (digit : Char) : Nat :=
  10 * number + (digit.toNat - '0'.toNat)

def value (digits : List Char) : Nat :=
  digits.foldl withDigit 0

def exponent? (text : List Char) : Option Int := do
  let (negative, rest) := match text with
    | '-' :: rest => (true, rest)
    | '+' :: rest => (false, rest)
    | _ => (false, text)
  let (digits, rest) ← digits? rest
  if rest.isEmpty then some (if negative then -(value digits : Int) else value digits)
  else none

/-- The whole part at the start of a text, and what follows it.  Only a single
zero starts with zero. -/
def whole? (text : List Char) : Option (List Char × List Char) := do
  let (digits, rest) ← digits? text
  if digits.head? = some '0' ∧ digits.length ≠ 1 then none else some (digits, rest)

/-- The digits behind a point at the start of a text, if there is one, and what
follows them. -/
def fraction? : List Char → Option (List Char × List Char)
  | '.' :: rest => digits? rest
  | rest => some ([], rest)

def parts? (text : List Char) : Option Parts := do
  let negative := text.head? == some '-'
  let (whole, rest) ← whole? (if negative then text.drop 1 else text)
  let (fraction, rest) ← fraction? rest
  match rest with
  | [] => some ⟨negative, whole, fraction, 0, fraction.isEmpty⟩
  | mark :: rest =>
    if mark = 'e' ∨ mark = 'E' then
      (exponent? rest).map fun exponent => ⟨negative, whole, fraction, exponent, false⟩
    else none

/-- One more than the greatest number of sixty-four bits. -/
def wordLimit : Nat := 0x10000000000000000

/-- A number with more digits at its end, as long as it fits into sixty-four bits,
and how many digits are left over. -/
def withDigits (number : Nat) : List Char → Nat × Nat
  | [] => (number, 0)
  | digit :: rest =>
    if withDigit number digit < wordLimit then withDigits (withDigit number digit) rest
    else (number, rest.length + 1)

def greatestPower : Nat := 308

/-- A double divided by a power of ten, in several steps if there is none as
large among the doubles. -/
def shrink (double : Double) (places : Nat) : Double :=
  if places ≤ greatestPower then double.div (.powerOfTen places)
  else if double.mantissa = 0 then double
  else shrink (double.div (.powerOfTen greatestPower)) (places - greatestPower)
termination_by places
decreasing_by
  simp only [greatestPower] at *
  omega

/-- A double times a power of ten, if that is small enough. -/
def scale? (double : Double) (places : Int) : Option Double :=
  if places < 0 then some (shrink double places.natAbs)
  else if double.mantissa = 0 then some double
  else if greatestPower < places.toNat then none
  else
    let product := double.mul (.powerOfTen places.toNat)
    if product.isFinite then some product else none

def magnitude? (parts : Parts) : Option Double :=
  let (leading, cut) := withDigits 0 parts.whole
  let (significand, unused) := withDigits leading parts.fraction
  scale? (.ofNat significand)
    (parts.exponent + cut - (parts.fraction.length - unused : Nat))

def ofParts? (parts : Parts) : Option Number :=
  let number := value parts.whole
  if parts.plain && !parts.negative && number < wordLimit then some (.integer number)
  else if parts.plain && parts.negative && 0 < number && 2 * number ≤ wordLimit then
    some (.integer (-number))
  else (magnitude? parts).map (.double parts.negative)

def read? (text : String) : Option Number :=
  (parts? text.toList).bind ofParts?

end Gamecard.Number
