import Gamecard.Files.Access
import Gamecard.Key.Ingestion
import Gamecard.Key.TitleKeys
import Gamecard.KeyFile

/-!
# Loading key files

A key file is taken from a given path or from the first default place where
there is one.  A given path that cannot be opened is an error; no file in any
default place is a warning.  Keys change only once the whole file is read.
-/

namespace Gamecard

/-- The directory for configuration and the home of the user, as far as the system
knows of them. -/
structure Environment where
  configDirectory : Option String
  home : Option String
deriving DecidableEq

namespace Environment

/-- The directories by the variables that name the home and the one for configuration.
An empty text names no home.  A configuration directory counts if it is absolute, and
otherwise there is one in the home. -/
def ofVariables (home configHome : Option String) : Environment :=
  let home := home.filter fun path => path != ""
  { home
    configDirectory := (configHome.filter fun path => path.startsWith "/").or
      (home.map fun path => Path.join path ".config") }

/-- The places where a key file is looked for when no path is given, as far as their
directories are known. -/
def defaultPaths (environment : Environment) (fileName : String) : List String :=
  let directories := [environment.configDirectory.map fun path => Path.join path "switch",
    environment.home.map fun path => Path.join path ".switch"]
  (directories.filterMap id).map fun directory => Path.join directory fileName

end Environment

namespace KeyFile

def keysName (isDev : Bool) : String :=
  if isDev then "dev.keys" else "prod.keys"

def titleKeysName : String := "title.keys"

def pairsOfNode : Node → Except Error (List (String × String))
  | .directory => .error (.keyFile (.unreadable (.system .isDirectory)))
  | .file contents => pairs contents

/-- A way to take pairs over into keys. -/
abbrev Takeover (κ : Type) := κ → List (String × String) → κ × Diagnostics

variable {m : Type → Type} [Monad m] {κ : Type}

/-- The first of some paths that can be opened. -/
def openFirst (files : FileAccess m) : List String → m (Option Node)
  | [] => pure none
  | path :: rest => do
    match ← files.openPath path with
    | .ok node => pure (some node)
    | .error _ => openFirst files rest

/-- The pairs of the key file that counts, or `none` when there is no file in
any default place. -/
def load (files : FileAccess m) (environment : Environment) (path : Option String)
    (fileName : String) : m (Except Error (Option (List (String × String)))) := do
  match path with
  | some path =>
    match ← files.openPath path with
    | .error error => pure (.error (.file path error))
    | .ok node => pure ((pairsOfNode node).map some)
  | none =>
    match ← openFirst files (environment.defaultPaths fileName) with
    | none => pure (.ok none)
    | some node => pure ((pairsOfNode node).map some)

/-- What loading does to keys: they take over the pairs, or stay as they are
together with a warning. -/
def applyPairs (ingestAll : Takeover κ) (keys : κ) (fileName : String) :
    Option (List (String × String)) → κ × Diagnostics
  | none => (keys, [.keyFileNotFound fileName])
  | some pairs => ingestAll keys pairs

/-- Reads what was found at a path into keys, which change in place. -/
def readInto (ingestAll : Takeover κ) (node : Node) : StateT κ m (Except Error Diagnostics) :=
  match pairsOfNode node with
  | .error error => pure (.error error)
  | .ok pairs => do
    let (later, warnings) := ingestAll (← get) pairs
    set later
    pure (.ok warnings)

/-- Reads the key file that counts into keys, which change in place. -/
def loadInto (ingestAll : Takeover κ) (files : FileAccess m) (environment : Environment)
    (path : Option String) (fileName : String) : StateT κ m (Except Error Diagnostics) := do
  match path with
  | some path =>
    match ← StateT.lift (files.openPath path) with
    | .error error => pure (.error (.file path error))
    | .ok node => readInto ingestAll node
  | none =>
    match ← StateT.lift (openFirst files (environment.defaultPaths fileName)) with
    | none => pure (.ok [.keyFileNotFound fileName])
    | some node => readInto ingestAll node

end KeyFile

end Gamecard
