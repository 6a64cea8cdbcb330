import Gamecard.FileSystem

/-!
# Walking a file system

A visitor is called on entering the root directory, for every file in the
order of the table, and on leaving the root directory.  Each call may stop
the walk.
-/

namespace Gamecard

inductive Walk where
  | next
  | stop
deriving DecidableEq

inductive Visit where
  | enter (path : String)
  | file (path : String) (entry : Entry)
  | leave (path : String)
deriving DecidableEq

/-- What a visitor makes of a call: its next state, and whether to go on. -/
abbrev Visitor (σ : Type) := σ → Visit → σ × Walk

namespace FileSystem

variable {σ : Type}

def rootPath : String := "/"

/-- The calls for the files and for the end, as long as none stops the walk. -/
def walkFiles (visitor : Visitor σ) : List Entry → σ → σ × Walk
  | [], state => visitor state (.leave rootPath)
  | entry :: rest, state =>
    match visitor state (.file rootPath entry) with
    | (state, .stop) => (state, .stop)
    | (state, .next) => walkFiles visitor rest state

/-- The last state of a visitor, and whether it stopped the walk. -/
def walk (fileSystem : FileSystem) (visitor : Visitor σ) (state : σ) : σ × Walk :=
  match visitor state (.enter rootPath) with
  | (state, .stop) => (state, .stop)
  | (state, .next) => walkFiles visitor fileSystem.entries state

end FileSystem

end Gamecard
