import Gamecard.Bytes
import Gamecard.Files.Path
import Gamecard.IoError
import Gamecard.Text.Utf8

/-!
# File trees

A file tree maps places to directories and files; a place is the list of the
names that lead to it from the top.  There are no links of either kind: a file
has its contents at its place, and no other name.  Paths are followed as POSIX says: every
part but the last has to be a directory, one dot stays, two dots go up, and a
slash at the end asks for a directory.  Paths with a slash in front start at the
top, and all others at the current directory.
-/

namespace Gamecard

inductive Node where
  | directory
  | file (contents : Bytes)
deriving DecidableEq

abbrev Place := List String

/-- Directories and files below the top, which is a directory itself. -/
structure FileTree where
  nodes : List (Place × Node)
  current : Place
deriving DecidableEq

namespace FileTree

/-- The tree with nothing in it but the current directory and those above it. -/
def ofCurrent (current : Place) : FileTree where
  nodes := (List.range current.length).map fun above =>
    (current.take (above + 1), .directory)
  current := current

def lookup (tree : FileTree) (place : Place) : Option Node :=
  if place = [] then some .directory else tree.nodes.lookup place

def put (tree : FileTree) (place : Place) (node : Node) : FileTree :=
  { tree with nodes := (place, node) :: tree.nodes.filter fun entry => entry.1 != place }

def nameLimit : Nat := 255

/-- The number of bytes that a path has to stay below. -/
def pathLimit : Nat := 4096

def refuse {α : Type} (error : SystemError) : Except IoError α :=
  .error (.system error)

/-- The place to which segments lead from another place, and what is there. -/
def follow (tree : FileTree) (place : Place) : List String → Except IoError (Place × Node)
  | [] =>
    match tree.lookup place with
    | none => refuse .noEntry
    | some node => .ok (place, node)
  | segment :: rest =>
    match tree.lookup place with
    | none => refuse .noEntry
    | some (.file _) => refuse .notDirectory
    | some .directory =>
      if segment = "" || segment = "." then tree.follow place rest
      else if segment = ".." then tree.follow place.dropLast rest
      else if nameLimit < (Utf8.encode segment).length then refuse .nameTooLong
      else tree.follow (place ++ [segment]) rest

def start (tree : FileTree) (path : String) : Place :=
  if path.startsWith "/" then [] else tree.current

/-- Refuses paths that no operation takes. -/
def checkPath (path : String) : Except IoError Unit :=
  if path.toList.contains '\x00' then .error .zeroInPath
  else if path = "" then refuse .noEntry
  else if pathLimit ≤ (Utf8.encode path).length then refuse .nameTooLong
  else .ok ()

def find (tree : FileTree) (path : String) : Except IoError (Place × Node) := do
  checkPath path
  tree.follow (tree.start path) (Path.segments path)

/-- A path cut before its last segment that is not empty. -/
structure Split where
  parent : List String
  last : String
  slash : Bool

/-- Cuts a path before its last segment, unless it has slashes only. -/
def split? (path : String) : Option Split :=
  let reversed := (Path.segments path).reverse
  match reversed.dropWhile (· = "") with
  | [] => none
  | last :: parent => some ⟨parent.reverse, last, reversed.head? = some ""⟩

def followDirectory (tree : FileTree) (place : Place) (segments : List String) :
    Except IoError Place :=
  match tree.follow place segments with
  | .error error => .error error
  | .ok (_, .file _) => refuse .notDirectory
  | .ok (place, .directory) => .ok place

/-- The place of the directory that is made at a path. -/
def directoryTarget (tree : FileTree) (path : String) : Except IoError Place := do
  checkPath path
  match split? path with
  | none => refuse .alreadyExists
  | some split =>
    let parent ← tree.followDirectory (tree.start path) split.parent
    if split.last = "." || split.last = ".." then refuse .alreadyExists
    else if nameLimit < (Utf8.encode split.last).length then refuse .nameTooLong
    else if (tree.lookup (parent ++ [split.last])).isSome then refuse .alreadyExists
    else .ok (parent ++ [split.last])

def makeDirectory (tree : FileTree) (path : String) : Except IoError FileTree := do
  let place ← tree.directoryTarget path
  .ok (tree.put place .directory)

/-- The place of the file that is written at a path. -/
def fileTarget (tree : FileTree) (path : String) : Except IoError Place := do
  checkPath path
  match split? path with
  | none => refuse .isDirectory
  | some split =>
    let parent ← tree.followDirectory (tree.start path) split.parent
    if split.last = "." || split.last = ".." || split.slash then refuse .isDirectory
    else if nameLimit < (Utf8.encode split.last).length then refuse .nameTooLong
    else if tree.lookup (parent ++ [split.last]) = some .directory then refuse .isDirectory
    else .ok (parent ++ [split.last])

def writeFile (tree : FileTree) (path : String) (contents : Bytes) :
    Except IoError FileTree := do
  let place ← tree.fileTarget path
  .ok (tree.put place (.file contents))

/-- Whether a place comes before or at another one: names are compared one by
one, and what lies in a directory comes right after it. -/
def placeLe : Place → Place → Bool
  | [], _ => true
  | _ :: _, [] => false
  | left :: lefts, right :: rights =>
    if left = right then placeLe lefts rights else decide (left < right)

/-- What lies in the directory at a place, with the places below it, in order. -/
def listAt (tree : FileTree) (place : Place) : List (Place × Node) :=
  let inside := tree.nodes.filterMap fun (other, node) =>
    if place.isPrefixOf other && other.length != place.length then
      some (other.drop place.length, node)
    else none
  inside.mergeSort fun left right => placeLe left.1 right.1

def list (tree : FileTree) (path : String) : List (Place × Node) :=
  match tree.find path with
  | .ok (place, .directory) => tree.listAt place
  | _ => []

end FileTree

end Gamecard
