import Gamecard.Card

/-!
# What is done with a card

The partitions of an opened card are there to be used.  Their files are opened and
verified, the storages are read at any place or from front to back, and readers are
moved along them.  What is at hand grows on the way, and so does what was asked for.
-/

namespace Gamecard

namespace Card

/-- The parts of a card that may hold a file system. -/
def allPartitions (card : Card) : List Partition :=
  card.root :: PartitionKind.all.map card.partition

/-- What is at hand while a card is used, and what was asked for until now. -/
structure Usage where
  fileSystems : List FileSystem
  /-- The storages of the partitions, and those of the files opened until now. -/
  storages : List Storage
  readers : List Reader
  reads : List Extent

/-- Something that is done with what is at hand, which is told by its place. -/
inductive Operation where
  | openEntry (fileSystem : Nat) (entry : Entry)
  | openFile (fileSystem : Nat) (name : String)
  | verify (fileSystem : Nat) (entry : Entry)
  | read (storage offset length : Nat)
  /-- Reads a storage from front to back in pieces, as a copy of it does. -/
  | readAll (storage : Nat)
  | startReader (storage : Nat)
  | next (reader length : Nat)
  | seek (reader : Nat) (target : Seek)

namespace Usage

/-- An opened card, before anything is done with it. -/
def start (card : Card) : Usage where
  fileSystems := card.allPartitions.filterMap Partition.fileSystem
  storages := card.allPartitions.filterMap Partition.storage
  readers := []
  reads := []

def note {ε α : Type} (usage : Usage) (access : Access ε α) : Usage :=
  { usage with reads := usage.reads ++ access.reads }

def add (usage : Usage) : Except Error Storage → Usage
  | .error _ => usage
  | .ok file => { usage with storages := usage.storages ++ [file] }

/-- The reader at a place as an operation left it. -/
def move {α : Type} (usage : Usage) (place : Nat) (step : Reader.Step α) : Usage :=
  { usage.note step.toAccess with readers := usage.readers.set place step.reader }

def step (usage : Usage) : Operation → Usage
  | .openEntry place entry =>
    usage.fileSystems[place]?.elim usage fun fileSystem =>
      usage.add (fileSystem.openEntry entry)
  | .openFile place name =>
    usage.fileSystems[place]?.elim usage fun fileSystem =>
      usage.add (fileSystem.openFile name)
  | .verify place entry =>
    usage.fileSystems[place]?.elim usage fun fileSystem =>
      usage.note (fileSystem.verify entry)
  | .read place offset length =>
    usage.storages[place]?.elim usage fun storage => usage.note (storage.read offset length)
  | .readAll place =>
    usage.storages[place]?.elim usage fun storage => usage.note storage.contents
  | .startReader place =>
    usage.storages[place]?.elim usage fun storage =>
      { usage with readers := usage.readers ++ [.start storage] }
  | .next place length =>
    usage.readers[place]?.elim usage fun reader => usage.move place (reader.next length)
  | .seek place target =>
    usage.readers[place]?.elim usage fun reader => usage.move place (reader.seek target)

def run (usage : Usage) (operations : List Operation) : Usage :=
  operations.foldl step usage

end Usage

end Card

end Gamecard
