import Gamecard.Files.Access

/-!
# Files with several names

A file tree keeps the contents of a file at its place, so a file has one name there.  On
a disk a file may have more, and what is written through one of its names shows under
all of them.  A linked tree keeps numbers at the places and the contents apart from
them.  To the program it looks like the file tree that it shows.
-/

namespace Gamecard

/-- What a name in a linked tree stands for. -/
inductive Link where
  | directory
  | file (number : Nat)
deriving DecidableEq

structure LinkedTree where
  links : List (Place × Link)
  /-- The contents of the files, in the order of their numbers. -/
  files : List Bytes
  current : Place
deriving DecidableEq

namespace LinkedTree

def node (tree : LinkedTree) : Link → Node
  | .directory => .directory
  | .file number => .file (tree.files.getD number [])

/-- The file tree that the linked tree shows. -/
def view (tree : LinkedTree) : FileTree where
  nodes := tree.links.map fun (place, link) => (place, tree.node link)
  current := tree.current

def linkAt (tree : LinkedTree) (place : Place) : Option Link :=
  tree.links.lookup place

def makeAt (tree : LinkedTree) (place : Place) : LinkedTree :=
  { tree with links := (place, .directory) :: tree.links }

/-- Writes to the file at a place, and makes one there if there is none. -/
def writeAt (tree : LinkedTree) (place : Place) (contents : Bytes) : LinkedTree :=
  match tree.linkAt place with
  | some (.file number) => { tree with files := tree.files.set number contents }
  | _ =>
    { tree with
      links := (place, .file tree.files.length) :: tree.links
      files := tree.files ++ [contents] }

/-- A change of the place that a path leads to, or nothing if it leads nowhere. -/
def change (target : FileTree → Except IoError Place) (next : LinkedTree → Place → LinkedTree) :
    StateM LinkedTree (Except IoError Unit) := fun tree =>
  match target tree.view with
  | .error error => (.error error, tree)
  | .ok place => (.ok (), next tree place)

def access : FileAccess (StateM LinkedTree) where
  openPath path := fun tree => ((tree.view.find path).map Prod.snd, tree)
  makeDirectory path := change (·.directoryTarget path) makeAt
  writeFile path contents := change (·.fileTarget path) (·.writeAt · contents)

end LinkedTree

end Gamecard
