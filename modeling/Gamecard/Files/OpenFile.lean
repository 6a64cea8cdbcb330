import Gamecard.Files.Access
import Gamecard.Storage.Reader

/-!
# Open files

A file is opened as a storage and stays open: its size is settled then, and
its contents are looked up again before it is read.  Paths keep leading to the
same file, as nothing here moves or removes files, so the path stands for the
open file.  A file that cannot be found any more keeps what it was last seen
to hold.
-/

namespace Gamecard

def Node.directorySize : Nat := 0x1000

/-- What is found at a path, as an open file.  Nothing can be read from a directory. -/
def Storage.ofNode (path : String) : Node → Storage
  | .directory => .file path Node.directorySize []
  | .file contents => .file path contents.length contents

namespace FileAccess

variable {m : Type → Type} [Monad m]

def openFile (files : FileAccess m) (path : String) : m (Except IoError Storage) := do
  pure ((← files.openPath path).map (Storage.ofNode path))

/-- What the open file at the bottom of a storage holds now, if there is such a
file and it can be found. -/
def contentsNow? (files : FileAccess m) (storage : Storage) : m (Option Bytes) :=
  match storage.path? with
  | none => pure none
  | some path => do
    match ← files.openPath path with
    | .ok (.file contents) => pure (some contents)
    | _ => pure none

def refresh (files : FileAccess m) (storage : Storage) : m Storage := do
  pure ((← files.contentsNow? storage).elim storage storage.withContents)

/-- Copies a storage into a file, which is made or emptied first.  When a read
fails, the file keeps what was copied before.  If the storage lies in that same
file, only empty reads succeed from then on, so it makes no difference that all
is read before anything is written. -/
def copy (files : FileAccess m) (storage : Storage) (path : String) :
    m (Except IoError Unit) := do
  match ← files.writeFile path [] with
  | .error error => pure (.error error)
  | .ok () =>
    let collected := (← files.refresh storage).collected
    match ← files.writeFile path collected.bytes with
    | .error error => pure (.error error)
    | .ok () => pure (collected.access.result.map fun _ => ())

end FileAccess

end Gamecard
