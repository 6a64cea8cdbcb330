import Gamecard.Card.Header
import Gamecard.Storage

/-!
# Key areas

An image may have a key area of four kilobytes in front of its body.  It is
taken to have one when a marked header follows right behind.  An image with
less than the size of a key area is all body, and is not read at all.
-/

namespace Gamecard

structure SplitImage where
  keyArea : Option Storage
  body : Storage
deriving DecidableEq

namespace SplitImage

def keyAreaSize : Nat := 0x1000

/-- The key area and the body of an image. -/
def ofImage (image : Storage) : Access Error SplitImage := do
  if image.size < keyAreaSize then pure ⟨none, image⟩
  else
    let bytes ← (image.read keyAreaSize Header.size).mapError .storage
    if Header.hasValidMagic (Block.fit Header.size bytes) then
      let keyArea ← .ofExcept (image.window? 0 keyAreaSize)
      let body ← .ofExcept (image.tail? keyAreaSize)
      pure ⟨some keyArea, body⟩
    else pure ⟨none, image⟩

end SplitImage

end Gamecard
