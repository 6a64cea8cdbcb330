import Gamecard.Hex
import Gamecard.Json.Number

/-!
# JSON

The values of JSON, and their text with two spaces of indent.  An object keeps
its members in the order in which they were put in, so a summary lists its
fields in a fixed order.
-/

namespace Gamecard

inductive Json where
  | null
  | bool (value : Bool)
  | number (value : Number)
  | string (value : String)
  | array (items : List Json)
  | object (members : List (String × Json))
deriving Inhabited

namespace Json

def ofNat (value : Nat) : Json :=
  .number (.integer value)

def ofOption {α : Type} (write : α → Json) : Option α → Json
  | none => .null
  | some value => write value

/-- A member of an object, by its name. -/
def member? (name : String) : Json → Option Json
  | .object members => members.lookup name
  | _ => none

def escape (character : Char) : List Char :=
  if character == '"' then ['\\', '"']
  else if character == '\\' then ['\\', '\\']
  else if character == '\x08' then ['\\', 'b']
  else if character == '\x0c' then ['\\', 'f']
  else if character == '\n' then ['\\', 'n']
  else if character == '\r' then ['\\', 'r']
  else if character == '\t' then ['\\', 't']
  else if character.toNat < 0x20 then
    ['\\', 'u'] ++ (Hex.ofNat 4 character.toNat).toList
  else [character]

def quote (text : String) : String :=
  String.ofList ('"' :: text.toList.flatMap escape ++ ['"'])

def indent (depth : Nat) : String :=
  String.ofList (List.replicate (2 * depth) ' ')

mutual

/-- The text of a value that stands at the given depth. -/
def pretty (depth : Nat) : Json → String
  | .null => "null"
  | .bool value => if value then "true" else "false"
  | .number value => value.text
  | .string value => quote value
  | .array [] => "[]"
  | .array (first :: rest) =>
    "[\n" ++ indent (depth + 1) ++ pretty (depth + 1) first ++
      prettyItems (depth + 1) rest ++ "\n" ++ indent depth ++ "]"
  | .object [] => "\x7b\x7d"
  | .object ((name, value) :: rest) =>
    "\x7b\n" ++ indent (depth + 1) ++ quote name ++ ": " ++ pretty (depth + 1) value ++
      prettyMembers (depth + 1) rest ++ "\n" ++ indent depth ++ "\x7d"

def prettyItems (depth : Nat) : List Json → String
  | [] => ""
  | item :: rest => ",\n" ++ indent depth ++ pretty depth item ++ prettyItems depth rest

def prettyMembers (depth : Nat) : List (String × Json) → String
  | [] => ""
  | (name, value) :: rest =>
    ",\n" ++ indent depth ++ quote name ++ ": " ++ pretty depth value ++
      prettyMembers depth rest

end

end Json

end Gamecard
