import Gamecard.Card
import Gamecard.Files.OpenFile
import Gamecard.Key.Operation
import Gamecard.Key.SlotTable
import Gamecard.KeyFile.Loading

/-!
# Sessions

A session gathers keys, derives what can be derived, hands the master keys to
slots, and opens cards with the header key.  Derivation and the header key are
preset together; a session without a header key keeps the one it had.
-/

namespace Gamecard

structure Session where
  isDev : Bool
  store : Store
  titleKeys : TitleKeys
  slots : SlotTable
  headerKey : Option Key
deriving DecidableEq

namespace Session

def new (isDev : Bool) : Session :=
  ⟨isDev, .empty, .empty, .empty, none⟩

def ingestAll (session : Session) (pairs : List (String × String)) :
    Session × Diagnostics :=
  let (store, warnings) := session.store.ingestAll pairs
  ({ session with store }, warnings)

def derive (session : Session) : Session × Diagnostics :=
  let (store, warnings) := session.store.derive
  ({ session with store }, warnings)

def installations (session : Session) : List Installation :=
  (List.finRange Derivation.generationCount).filterMap fun generation =>
    let key : Option Key := session.store.set? (.entry .masterKey generation)
    key.map fun key => ⟨key, generation.val, session.isDev⟩

def seedCipher (session : Session) : Session × Diagnostics :=
  match Store.getBlock 16 session.store HeaderCipher.keyName with
  | .ok key => ({ session with headerKey := some key }, [])
  | .error error => (session, [.headerCipherUnavailable error])

/-- Derives keys, hands each master key to a sink, and seeds the cipher. -/
def presetWith {σ : Type} (session : Session) (install : σ → Installation → σ) (sink : σ) :
    Session × σ × Diagnostics :=
  let (derived, warnings) := session.derive
  let filled := derived.installations.foldl install sink
  let (seeded, more) := derived.seedCipher
  (seeded, filled, warnings ++ more)

def preset (session : Session) : Session × Diagnostics :=
  let (seeded, slots, warnings) := session.presetWith SlotTable.install session.slots
  ({ seeded with slots }, warnings)

def openImage (session : Session) (image : Storage) : Access Error Card :=
  Card.ofImage image (HeaderCipher.decryption session.headerKey)

variable {m : Type → Type} [Monad m]

def loadKeys (session : Session) (files : FileAccess m) (environment : Environment)
    (path : Option String) : m (Except Error (Session × Diagnostics)) := do
  let fileName := KeyFile.keysName session.isDev
  match ← KeyFile.load files environment path fileName with
  | .error error => pure (.error error)
  | .ok pairs =>
    let (store, warnings) := KeyFile.applyPairs Store.ingestAll session.store fileName pairs
    pure (.ok ({ session with store }, warnings))

def loadTitleKeys (session : Session) (files : FileAccess m) (environment : Environment)
    (path : Option String) : m (Except Error (Session × Diagnostics)) := do
  let fileName := KeyFile.titleKeysName
  match ← KeyFile.load files environment path fileName with
  | .error error => pure (.error error)
  | .ok pairs =>
    let (titleKeys, warnings) :=
      KeyFile.applyPairs TitleKeys.ingestAll session.titleKeys fileName pairs
    pure (.ok ({ session with titleKeys }, warnings))

/-- Loads keys into the store of a session, in place. -/
def loadStore (session : Session) (files : FileAccess m) (environment : Environment)
    (path : Option String) : m (Except Error Diagnostics × Store) :=
  (KeyFile.loadInto Store.ingestAll files environment path
    (KeyFile.keysName session.isDev)).run session.store

/-- Loads title keys into those of a session, in place. -/
def loadTitles (session : Session) (files : FileAccess m) (environment : Environment)
    (path : Option String) : m (Except Error Diagnostics × TitleKeys) :=
  (KeyFile.loadInto TitleKeys.ingestAll files environment path
    KeyFile.titleKeysName).run session.titleKeys

def openPath (session : Session) (files : FileAccess m) (path : String) :
    m (Except Error Card) := do
  match ← files.openFile path with
  | .error error => pure (.error (.file path error))
  | .ok image => pure (session.openImage image).result

/-- A step of a session.  Steps that read files do so in a world of their own, and
steps that preset into a sink bring it along. -/
inductive Operation : Type 1 where
  | keys (operation : Store.Operation)
  | loadKeys {ω : Type} (files : FileAccess (StateM ω)) (world : ω) (environment : Environment)
      (path : Option String)
  | loadTitleKeys {ω : Type} (files : FileAccess (StateM ω)) (world : ω)
      (environment : Environment) (path : Option String)
  | preset
  | presetWith {σ : Type} (install : σ → Installation → σ) (sink : σ)

/-- The session that a step leaves. -/
def apply (session : Session) : Operation → Session
  | .keys operation => { session with store := session.store.apply operation }
  | .loadKeys files world environment path =>
    { session with store := (session.loadStore files environment path world).1.2 }
  | .loadTitleKeys files world environment path =>
    { session with titleKeys := (session.loadTitles files environment path world).1.2 }
  | .preset => session.preset.1
  | .presetWith install sink => (session.presetWith install sink).1

/-- The session that steps lead to from a new one. -/
def reached (isDev : Bool) (operations : List Operation) : Session :=
  operations.foldl apply (.new isDev)

end Session

end Gamecard
