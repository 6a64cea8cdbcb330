import Gamecard.Block
import Gamecard.Json
import Gamecard.Text.Quoted
import Gamecard.Text.Utf8

/-!
# Blocks as JSON strings

In JSON a block is the string of its digits.  Reading takes digits of either
case but exactly as many as the block has; the length is looked at before the
digits.
-/

namespace Gamecard

inductive HexStringError where
  | wrongType (value : Json)
  | wrongLength (length : Nat)
  | notHex (text : String)

namespace HexStringError

def kindOf : Json → String
  | .null => "null"
  | .bool value => "boolean `" ++ (if value then "true" else "false") ++ "`"
  | .number (.integer value) => "integer `" ++ toString value ++ "`"
  | .number value => "floating point `" ++ value.text ++ "`"
  | .string value => "string " ++ Text.quote value
  | .array _ => "sequence"
  | .object _ => "map"

def message : HexStringError → String
  | .wrongType value => "invalid type: " ++ kindOf value ++ ", expected a character hexstring"
  | .wrongLength length =>
    "invalid length " ++ toString length ++ ", expected a character hexstring"
  | .notHex text =>
    "invalid value: string " ++ Text.quote text ++ ", expected a character hexstring"

end HexStringError

namespace Hex

def isHexText (text : String) : Bool :=
  isHex (Utf8.encode text)

/-- The block that the digits of a text fill, cut off or padded with zeros. -/
def decodeText (size : Nat) (text : String) : Block size :=
  Block.fit size (decode (Utf8.encode text))

def parseBlock (size : Nat) (text : String) : Except HexStringError (Block size) :=
  let length := (Utf8.encode text).length
  if length ≠ 2 * size then .error (.wrongLength length)
  else if !isHexText text then .error (.notHex text)
  else .ok (decodeText size text)

end Hex

namespace Block

variable {size : Nat}

def toHex (block : Block size) : String :=
  Hex.encode block.bytes

def toJson (block : Block size) : Json :=
  .string block.toHex

def ofJson (size : Nat) : Json → Except HexStringError (Block size)
  | .string text => Hex.parseBlock size text
  | value => .error (.wrongType value)

def describe (label : String) (block : Block size) : String :=
  label ++ "(" ++ block.toHex ++ ")"

end Block

end Gamecard
