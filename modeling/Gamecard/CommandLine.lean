import Gamecard.CommandLine.Arguments
import Gamecard.FileSystem.Extraction
import Gamecard.Session

/-!
# The command line

A run loads both key files, presets the session and then carries out its
command.  It ends with an exit code and with what it prints: 2 for a command
line that is not understood, 1 for a failure, which is printed, 101 for a
fatal failure, which is not, and otherwise 0.
-/

namespace Gamecard

structure Outcome where
  exitCode : Nat
  output : String
deriving DecidableEq

namespace Outcome

def success (output : String) : Outcome := ⟨0, output⟩

def failure (error : Error) : Outcome :=
  if error.isFatal then ⟨101, ""⟩ else ⟨1, "Error: " ++ error.message ++ "\n"⟩

def misuse : Outcome := ⟨2, ""⟩

end Outcome

namespace CommandLine

variable {m : Type → Type} [Monad m]

def prepare (files : FileAccess m) (environment : Environment) (options : Options) :
    m (Except Error Session) := do
  let session := Session.new options.isDev
  match ← session.loadKeys files environment options.keys with
  | .error error => pure (.error error)
  | .ok (session, _) =>
    match ← session.loadTitleKeys files environment options.titleKeys with
    | .error error => pure (.error error)
    | .ok (session, _) => pure (.ok session.preset.1)

def listKeys (store : Store) : String :=
  String.join (store.setKeys.map fun (name, bytes) =>
    name.text ++ " = " ++ Hex.encode bytes ++ "\n")

/-- The card at a path, a failing storage being reported as that file. -/
def openCard (session : Session) (files : FileAccess m) (path : String) :
    m (Except Error Card) := do
  let opened ← session.openPath files path
  pure (opened.mapError (Error.inFile path))

def perform (session : Session) (files : FileAccess m) : Command → m Outcome
  | .keys => pure (.success (listKeys session.store))
  | .info image => do
    match ← openCard session files image with
    | .error error => pure (.failure error)
    | .ok card => pure (.success (card.summary.pretty 0 ++ "\n"))
  | .extract image partition directory => do
    match ← openCard session files image with
    | .error error => pure (.failure error)
    | .ok card =>
      match card.mounted partition with
      | .error error => pure (.failure error)
      | .ok fileSystem =>
        match ← fileSystem.extract files directory with
        | .error error => pure (.failure error)
        | .ok () => pure (.success "")

def invoke (files : FileAccess m) (environment : Environment) (invocation : Invocation) :
    m Outcome := do
  match ← prepare files environment invocation.options with
  | .error error => pure (.failure error)
  | .ok session => perform session files invocation.command

def run (files : FileAccess m) (environment : Environment) (arguments : List String) :
    m Outcome :=
  match Arguments.read? arguments with
  | none => pure .misuse
  | some invocation => invoke files environment invocation

end CommandLine

end Gamecard
