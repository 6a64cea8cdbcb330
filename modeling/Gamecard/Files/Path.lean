/-!
# Paths

A path is a text with its parts between slashes.  Empty parts count for
nothing, and neither does a dot, unless it comes first in a relative path.
-/

namespace Gamecard

inductive Component where
  /-- The slash at the start of an absolute path. -/
  | root
  /-- A dot at the start of a relative path. -/
  | current
  | parent
  | name (text : String)
deriving DecidableEq

def Component.text : Component → String
  | .root => ""
  | .current => "."
  | .parent => ".."
  | .name text => text

namespace Path

def segments (path : String) : List String :=
  (path.toList.splitOn '/').map String.ofList

/-- The component that a segment in the middle of a path makes, if any. -/
def component? (segment : String) : Option Component :=
  if segment = "" || segment = "." then none
  else if segment = ".." then some .parent
  else some (.name segment)

def components (path : String) : List Component :=
  let segments := segments path
  let start : List Component :=
    if path.startsWith "/" then [.root]
    else if segments.head? = some "." then [.current]
    else []
  start ++ segments.filterMap component?

def ofComponents : List Component → String
  | [.root] => "/"
  | components => "/".intercalate (components.map Component.text)

/-- The path and the directories above it, from the inside out; the directory
where relative paths start is left out. -/
def withParents (path : String) : List String :=
  let components := components path
  let above := (List.range components.length).filterMap fun dropped =>
    if dropped = 0 then none
    else some (ofComponents (components.take (components.length - dropped)))
  if path = "" then [] else path :: above

def join (directory name : String) : String :=
  if directory = "" then name
  else if directory.endsWith "/" then directory ++ name
  else directory ++ "/" ++ name

/-- Whether a name is a single plain component. -/
def isPlainName (name : String) : Bool :=
  match components name with
  | [.name _] => true
  | _ => false

end Path

end Gamecard
