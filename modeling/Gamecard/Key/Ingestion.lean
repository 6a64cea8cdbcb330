import Gamecard.Key.NameReader
import Gamecard.Key.Store

/-!
# Taking keys over from pairs of texts

A pair of a name and a value fills the cell of that name.  Names are read
without regard to the case of ASCII letters.  A value with an odd number of
bytes or with characters that are no digits is dropped, and so is a value for
an unknown name; a value of the wrong size is cut off or padded.
-/

namespace Gamecard.Store

def ingest (store : Store) (name value : String) : Store × Option Warning :=
  let key := name.map Char.toLower
  let length := (Utf8.encode value).length
  if length % 2 ≠ 0 then (store, some (.oddLengthValue key))
  else if !Hex.isHexText value then (store, some (.nonHexValue key))
  else
    match (KeyName.read? key).bind KeyName.cell? with
    | none => (store, some (.unknownKey key value))
    | some cell =>
      (store.write cell (Hex.decodeText cell.size value),
        if length ≠ 2 * cell.size then
          some (.keyLengthMismatch key (length / 2) cell.size)
        else none)

def ingestAll (store : Store) : List (String × String) → Store × Diagnostics
  | [] => (store, [])
  | (name, value) :: rest =>
    let (next, warning) := store.ingest name value
    let (final, later) := next.ingestAll rest
    (final, warning.toList ++ later)

end Gamecard.Store
