import Gamecard.Hex
import Gamecard.Text.Unprintable

/-!
# Quoted text

Messages show a string between double quotes and a character between single
quotes.  The mark itself and the backslash are escaped, four controls have a
letter of their own, and what has no visible form is given by its code point.
-/

namespace Gamecard.Text

def escape (mark character : Char) : List Char :=
  if character == '\x00' then ['\\', '0']
  else if character == '\t' then ['\\', 't']
  else if character == '\n' then ['\\', 'n']
  else if character == '\r' then ['\\', 'r']
  else if character == '\\' || character == mark then ['\\', character]
  else if isUnprintable character then
    ['\\', 'u', '\x7b'] ++ Nat.toDigits 16 character.toNat ++ ['\x7d']
  else [character]

def quote (text : String) : String :=
  String.ofList ('"' :: text.toList.flatMap (escape '"') ++ ['"'])

def quoteChar (character : Char) : String :=
  String.ofList ('\x27' :: escape '\x27' character ++ ['\x27'])

end Gamecard.Text
