import Gamecard.Files.Tree

/-!
# Access to files

What the program does with files goes through three operations.  They may act
on a file tree in memory or on the disk; nothing else depends on which.
-/

namespace Gamecard

structure FileAccess (m : Type → Type) where
  openPath : String → m (Except IoError Node)
  makeDirectory : String → m (Except IoError Unit)
  writeFile : String → Bytes → m (Except IoError Unit)

namespace FileAccess

variable {m : Type → Type} [Monad m]

def unlessDirectory (files : FileAccess m) (path : String) (error : IoError) :
    m (Except IoError Unit) := do
  match ← files.openPath path with
  | .ok .directory => pure (.ok ())
  | _ => pure (.error error)

/-- Makes the first of some directories.  The others lie above it, from the
inside out, and are made first as far as they are missing. -/
def makeWithin (files : FileAccess m) : List String → m (Except IoError Unit)
  | [] => pure (.ok ())
  | path :: above => do
    match ← files.makeDirectory path with
    | .ok () => pure (.ok ())
    | .error error =>
      if error = .system .noEntry then
        match ← files.makeWithin above with
        | .error error => pure (.error error)
        | .ok () =>
          match ← files.makeDirectory path with
          | .ok () => pure (.ok ())
          | .error error => files.unlessDirectory path error
      else files.unlessDirectory path error

/-- Makes a directory and the directories above it, as far as they are missing. -/
def createDirectories (files : FileAccess m) (path : String) : m (Except IoError Unit) :=
  files.makeWithin (Path.withParents path)

def createFile (files : FileAccess m) (path : String) (contents : Bytes) :
    m (Except IoError Unit) := do
  match ← files.makeWithin ((Path.withParents path).drop 1) with
  | .error error => pure (.error error)
  | .ok () => files.writeFile path contents

end FileAccess

namespace FileTree

/-- A change of a file tree as an action, which does nothing when it fails. -/
def change (next : FileTree → Except IoError FileTree) :
    StateM FileTree (Except IoError Unit) := fun tree =>
  match next tree with
  | .error error => (.error error, tree)
  | .ok changed => (.ok (), changed)

def access : FileAccess (StateM FileTree) where
  openPath path := fun tree => ((tree.find path).map Prod.snd, tree)
  makeDirectory path := change fun tree => tree.makeDirectory path
  writeFile path contents := change fun tree => tree.writeFile path contents

end FileTree

end Gamecard
