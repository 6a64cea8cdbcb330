import Gamecard.Card.KeyArea
import Gamecard.Proofs.Storage.Tower

/-!
# The body of an image

Whether an image has a key area is decided by its length and by four of its
bytes.  Splitting an image fails only if the image ends where the mark of a
header would have to be looked for.
-/

namespace Gamecard.SplitImage

/-- The bytes that mark a header. -/
def mark : Bytes := [0x48, 0x45, 0x41, 0x44]

/-- A marked header follows behind the first four kilobytes. -/
def HasKeyArea (image : Bytes) : Prop :=
  0x1200 ≤ image.length ∧ image.slice 0x1100 4 = mark

instance (image : Bytes) : Decidable (HasKeyArea image) :=
  inferInstanceAs (Decidable (_ ∧ _))

/-- The image without its key area. -/
def bodyBytes (image : Bytes) : Bytes :=
  if HasKeyArea image then image.drop 0x1000 else image

/-- The parts show the key area, if there is one, and the body of an image. -/
structure Shows (parts : SplitImage) (image : Bytes) : Prop where
  keyArea : HasKeyArea image →
    ∃ storage, parts.keyArea = some storage ∧ storage.Shows (image.take 0x1000)
  noKeyArea : ¬HasKeyArea image → parts.keyArea = none
  body : parts.body.Shows (bodyBytes image)

theorem length_bodyBytes_le (image : Bytes) : (bodyBytes image).length ≤ image.length := by
  unfold bodyBytes
  split
  · rw [List.length_drop]
    omega
  · exact Nat.le_refl _

theorem hasValidMagic_iff (header : Header) :
    header.hasValidMagic = true ↔ header.bytes.slice 0x100 4 = mark := by
  have lengths : (header.bytes.slice 0x100 4).length = mark.length := by
    apply Bytes.length_slice_of_le
    rw [header.length_bytes]
    decide
  have number : header.magic = Bytes.littleEndian (header.bytes.slice 0x100 4) := rfl
  rw [Header.hasValidMagic, beq_iff_eq, number]
  constructor
  · intro same
    exact Bytes.littleEndian_injective lengths same
  · intro same
    rw [same]
    rfl

/-- Where a header would follow a key area, its mark is looked for. -/
theorem hasValidMagic_probe_iff {image : Bytes} (long : 0x1200 ≤ image.length) :
    Header.hasValidMagic (Block.fit Header.size (image.slice keyAreaSize Header.size)) = true ↔
      HasKeyArea image := by
  have whole : (image.slice keyAreaSize Header.size).length = Header.size :=
    Bytes.length_slice_of_le long
  have exact : (Block.fit Header.size (image.slice keyAreaSize Header.size)).bytes =
      image.slice keyAreaSize Header.size := Bytes.fit_of_length_eq whole
  refine (hasValidMagic_iff _).trans ?_
  rw [exact, Bytes.slice_slice image (by decide)]
  exact (and_iff_right long).symm

theorem shows_whole {storage : Storage} {image : Bytes} (shows : storage.Shows image)
    (noKeyArea : ¬HasKeyArea image) : Shows ⟨none, storage⟩ image where
  keyArea present := absurd present noKeyArea
  noKeyArea _ := rfl
  body := by
    rw [bodyBytes, if_neg noKeyArea]
    exact shows

theorem shows_split {storage : Storage} {image : Bytes} (shows : storage.Shows image)
    (hasKeyArea : HasKeyArea image) :
    Shows ⟨some (.window storage 0 0x1000),
      .window storage 0x1000 (storage.size - 0x1000)⟩ image where
  keyArea _ := ⟨_, rfl, shows.window (by have long := hasKeyArea.1; omega)⟩
  noKeyArea missing := absurd hasKeyArea missing
  body := by
    have long := hasKeyArea.1
    have range : (Storage.window storage 0x1000 (image.length - 0x1000)).Shows
        (image.slice 0x1000 (image.length - 0x1000)) := shows.window (by omega)
    rwa [bodyBytes, if_pos hasKeyArea, shows.size_eq, ← Bytes.slice_rest]

/-- An image that ends behind the key area but before the end of a header
there cannot be split. -/
theorem result_ofImage_of_probe_fails {storage : Storage} {image : Bytes}
    (shows : storage.Shows image) (behind : 0x1000 ≤ image.length)
    (short : image.length < 0x1200) :
    (ofImage storage).result =
      .error (.storage (.pastEnd Header.size keyAreaSize image.length)) := by
  have probed : ¬image.length < keyAreaSize := Nat.not_lt.mpr behind
  have beyond : image.length < keyAreaSize + Header.size := short
  unfold ofImage
  rw [shows.size_eq, if_neg probed, shows.result_read_bind_beyond beyond]

/-- Any other image is split into its key area and its body. -/
theorem result_ofImage {storage : Storage} {image : Bytes} (shows : storage.Shows image)
    (fits : image.length < 0x1000 ∨ 0x1200 ≤ image.length) :
    ∃ parts, (ofImage storage).result = .ok parts ∧ Shows parts image := by
  have size : keyAreaSize = 0x1000 := rfl
  unfold ofImage
  rw [shows.size_eq]
  rcases fits with short | long
  · have small : image.length < keyAreaSize := short
    have noKeyArea : ¬HasKeyArea image := by
      intro present
      have long := present.1
      omega
    rw [if_pos small]
    exact ⟨_, rfl, shows_whole shows noKeyArea⟩
  · have probe := hasValidMagic_probe_iff long
    rw [if_neg (by omega), shows.result_read_bind long]
    by_cases hasKeyArea : HasKeyArea image
    · have front : storage.window? 0 keyAreaSize = .ok (.window storage 0 0x1000) := by
        rw [Storage.window?_eq_ok_iff, shows.size_eq]
        exact ⟨by omega, rfl⟩
      have rest : storage.tail? keyAreaSize =
          .ok (.window storage 0x1000 (storage.size - 0x1000)) := by
        rw [Storage.tail?_eq_ok_iff, shows.size_eq]
        exact ⟨by omega, rfl⟩
      rw [if_pos (probe.mpr hasKeyArea), front, rest]
      exact ⟨_, rfl, shows_split shows hasKeyArea⟩
    · rw [if_neg (mt probe.mp hasKeyArea)]
      exact ⟨_, rfl, shows_whole shows hasKeyArea⟩

/-- The parts that an image was split into show its key area and its body. -/
theorem shows_of_ofImage {storage : Storage} {image : Bytes} (shows : storage.Shows image)
    {parts : SplitImage} (split : (ofImage storage).result = .ok parts) : Shows parts image := by
  by_cases fits : image.length < 0x1000 ∨ 0x1200 ≤ image.length
  · obtain ⟨other, result, partsShow⟩ := result_ofImage shows fits
    rw [split] at result
    cases result
    exact partsShow
  · have behind : 0x1000 ≤ image.length := by omega
    have failed := result_ofImage_of_probe_fails shows behind (by omega)
    rw [split] at failed
    cases failed

/-- An image is all body, or its body is what follows the key area. -/
theorem ofImage_cases {storage : Storage} {parts : SplitImage}
    (split : (ofImage storage).result = .ok parts) :
    parts = ⟨none, storage⟩ ∨
      keyAreaSize ≤ storage.size ∧ parts = ⟨some (.window storage 0 keyAreaSize),
        .window storage keyAreaSize (storage.size - keyAreaSize)⟩ := by
  unfold ofImage at split
  split at split
  · cases split
    exact .inl rfl
  · obtain ⟨bytes, _, probed⟩ := Access.exists_of_result_bind split
    split at probed
    · obtain ⟨keyArea, front, rest⟩ := Access.exists_of_result_bind probed
      obtain ⟨body, behind, same⟩ := Access.exists_of_result_bind rest
      obtain ⟨_, keyAreaEq⟩ := Storage.window?_eq_ok_iff.mp front
      obtain ⟨long, bodyEq⟩ := Storage.tail?_eq_ok_iff.mp behind
      cases same
      right
      rw [keyAreaEq, bodyEq]
      exact ⟨long, rfl⟩
    · cases probed
      exact .inl rfl

end Gamecard.SplitImage
