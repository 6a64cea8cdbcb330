import Gamecard.Key.Derivation
import Gamecard.Key.Ingestion

/-!
# What is done with a key store

A store starts empty and is changed by registering keys, by taking over pairs of
texts and by deriving keys, in any order.
-/

namespace Gamecard.Store

inductive Operation where
  | register (name : KeyName) (bytes : Bytes)
  | ingest (name value : String)
  | ingestAll (pairs : List (String × String))
  | derive

/-- The store that an operation leaves. -/
def apply (store : Store) : Operation → Store
  | .register name bytes => ((register name bytes).run store).2
  | .ingest name value => (store.ingest name value).1
  | .ingestAll pairs => (store.ingestAll pairs).1
  | .derive => store.derive.1

/-- The store that operations lead to from the empty one. -/
def reached (operations : List Operation) : Store :=
  operations.foldl apply empty

end Gamecard.Store
