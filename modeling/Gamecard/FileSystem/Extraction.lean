import Gamecard.FileSystem
import Gamecard.Files.OpenFile

/-!
# Extracting files

The files of a file system are copied into a directory.  Nothing is written
unless every name is a single plain component of a path.  The files are
copied in the order of the table, and the first failure ends it.  A copy that
takes the place of the card's own image empties it first, and from then on
nothing but empty files can be read from the card.
-/

namespace Gamecard.FileSystem

variable {m : Type → Type} [Monad m]

def copyEntries (fileSystem : FileSystem) (files : FileAccess m) (directory : String) :
    List Entry → m (Except Error Unit)
  | [] => pure (.ok ())
  | entry :: rest => do
    let path := Path.join directory entry.name
    match fileSystem.openEntry entry with
    | .error error => pure (.error error)
    | .ok file =>
      match ← files.copy file path with
      | .error error => pure (.error (.file path error))
      | .ok () => copyEntries fileSystem files directory rest

/-- The first entry whose name is not plain. -/
def firstRefused? (fileSystem : FileSystem) : Option Entry :=
  fileSystem.entries.find? fun entry => !Path.isPlainName entry.name

theorem firstRefused?_eq_none_iff {fileSystem : FileSystem} :
    fileSystem.firstRefused? = none ↔
      ∀ entry ∈ fileSystem.entries, Path.isPlainName entry.name = true := by
  simp [firstRefused?]

/-- Copies all files into a directory, which is made if need be. -/
def extract (fileSystem : FileSystem) (files : FileAccess m) (directory : String) :
    m (Except Error Unit) := do
  match fileSystem.firstRefused? with
  | some entry => pure (.error (.unsafeFileName entry.name))
  | none =>
    match ← files.createDirectories directory with
    | .error error => pure (.error (.file directory error))
    | .ok () => fileSystem.copyEntries files directory fileSystem.entries

end Gamecard.FileSystem
