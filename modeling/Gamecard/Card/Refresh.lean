import Gamecard.Card
import Gamecard.Files.OpenFile

/-!
# Cards in open files

A card keeps the file open that its image came from.  What was read when the
card was opened stays as it is, and what is read later is what the file holds
by then.
-/

namespace Gamecard

def SplitImage.map (change : Storage → Storage) (parts : SplitImage) : SplitImage where
  keyArea := parts.keyArea.map change
  body := change parts.body

def FileSystem.map (change : Storage → Storage) (fileSystem : FileSystem) : FileSystem :=
  { fileSystem with storage := change fileSystem.storage }

def Partition.map (change : Storage → Storage) (partition : Partition) : Partition where
  storage := partition.storage.map change
  fileSystem := partition.fileSystem.map (FileSystem.map change)

def Partitions.map (change : Storage → Storage) (partitions : Partitions) : Partitions where
  update := partitions.update.map change
  logo := partitions.logo.map change
  normal := partitions.normal.map change
  secure := partitions.secure.map change

namespace Card

def map (change : Storage → Storage) (card : Card) : Card :=
  { card with
    image := change card.image
    parts := card.parts.map change
    root := card.root.map change
    partitions := card.partitions.map change }

/-- The card with its image file as it is now. -/
def refresh {m : Type → Type} [Monad m] (files : FileAccess m) (card : Card) : m Card := do
  pure ((← files.contentsNow? card.image).elim card fun contents =>
    card.map (Storage.withContents contents))

end Card

end Gamecard
