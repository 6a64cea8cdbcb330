import Gamecard.Key.Name

/-!
# Reading key names

A fixed name is read first.  Any other name has to end in an underscore and
two lower-case digits, and what stands before the last underscore has to be a
family with a key of that generation.
-/

namespace Gamecard.KeyName

/-- The parts before and after the last occurrence of a character. -/
def splitLast (mark : Char) (text : List Char) : Option (List Char × List Char) :=
  match text with
  | [] => none
  | character :: rest =>
    match splitLast mark rest with
    | some (before, later) => some (character :: before, later)
    | none => if character = mark then some ([], rest) else none

def lowerDigit? (character : Char) : Option Nat :=
  if '0' ≤ character ∧ character ≤ '9' then some (character.toNat - '0'.toNat)
  else if 'a' ≤ character ∧ character ≤ 'f' then some (character.toNat - 'a'.toNat + 10)
  else none

def readGeneration? : List Char → Option UInt8
  | [high, low] => do
    let high ← lowerDigit? high
    let low ← lowerDigit? low
    some (UInt8.ofNat (16 * high + low))
  | _ => none

def readGenerational? (text : List Char) : Option KeyName := do
  let (base, suffix) ← splitLast '_' text
  let generation ← readGeneration? suffix
  let family ← Family.all.find? fun family =>
    family.text.toList == base && (KeyName.generational family generation).isKnown
  some (.generational family generation)

/-- The known name that a text spells. -/
def read? (text : String) : Option KeyName :=
  match Scalar.all.find? fun key => key.text == text with
  | some key => some (.scalar key)
  | none => readGenerational? text.toList

end Gamecard.KeyName
