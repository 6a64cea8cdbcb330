import Gamecard.Proofs.Card.Opening
import Gamecard.Proofs.FileSystem.RoundTrip

/-!
# Cards built around files

The least card that holds some files consists of zeros up to the end of the
fixed structures and of a root partition behind them.  With a cipher that
decrypts its header to one that knows the place and the digest of the root
partition, it opens and its root partition has the files as its entries.
-/

namespace Gamecard.Card

open SplitImage (bodyBytes)

/-- A header with the place and the digest of a root partition, and otherwise of
zeros, which make it that of a normal card. -/
def headerOfRoot (address : Nat) (digest : Digest) : Header :=
  Block.fit 0x200 (Bytes.zeros 0x130 ++
    (Bytes.ofLittleEndian 8 address ++ (Bytes.zeros 8 ++ (digest.bytes ++ Bytes.zeros 0xA0))))

theorem bytes_headerOfRoot (address : Nat) (digest : Digest) :
    (headerOfRoot address digest).bytes = Bytes.zeros 0x130 ++
      (Bytes.ofLittleEndian 8 address ++
        (Bytes.zeros 8 ++ (digest.bytes ++ Bytes.zeros 0xA0))) := by
  apply Bytes.fit_of_length_eq
  simp only [List.length_append, Bytes.length_zeros, Bytes.length_ofLittleEndian,
    digest.length_bytes]

theorem rootAddress_headerOfRoot {address : Nat} (fits : address < 256 ^ 8) (digest : Digest) :
    (headerOfRoot address digest).rootAddress = address := by
  have number : (headerOfRoot address digest).rootAddress =
      (headerOfRoot address digest).bytes.numberAt 0x130 8 := rfl
  rw [number, bytes_headerOfRoot]
  exact Bytes.numberAt_past (Bytes.length_zeros _) fits _

theorem slice_headerOfRoot (address : Nat) (digest : Digest) (offset length : Nat) :
    Bytes.slice (0x140 + offset) length (headerOfRoot address digest).bytes =
      Bytes.slice offset length (digest.bytes ++ Bytes.zeros 0xA0) := by
  have first : (Bytes.zeros 0x130).length = 0x130 := Bytes.length_zeros _
  have second : (Bytes.ofLittleEndian 8 address).length = 8 := Bytes.length_ofLittleEndian _ _
  have third : (Bytes.zeros 8).length = 8 := Bytes.length_zeros _
  have rest : 0x140 + offset - 0x130 - 8 - 8 = offset := by omega
  rw [bytes_headerOfRoot, Bytes.slice_append_right (by omega), Bytes.slice_append_right (by omega),
    Bytes.slice_append_right (by omega), first, second, third, rest]

theorem rootHash_headerOfRoot (address : Nat) (digest : Digest) :
    (headerOfRoot address digest).rootHash = digest := by
  apply Block.ext
  have start := Bytes.slice_append_left digest.bytes (Bytes.zeros 0xA0)
  rw [digest.length_bytes] at start
  exact (slice_headerOfRoot address digest 0 0x20).trans start

theorem salt?_headerOfRoot (address : Nat) (digest : Digest) :
    (headerOfRoot address digest).cardInfo.salt? = none := by
  have data : (headerOfRoot address digest).encryptedData.bytes = Bytes.zeros 0x70 := by
    refine (slice_headerOfRoot address digest 0x50 0x70).trans ?_
    rw [Bytes.slice_append_right (by rw [digest.length_bytes]; decide), digest.length_bytes]
    rfl
  have code : (headerOfRoot address digest).cardInfo.compatibilityCode = 0 := by
    simp only [Header.cardInfo, Block.byteAt, data]
    rfl
  rw [CardInfo.salt?, CardInfo.compatibility, code]
  rfl

/-- The bytes of a card with nothing but a root partition that holds these files. -/
def imageOfFiles (files : List Image.File) : Bytes :=
  Bytes.zeros 0x7200 ++ (Image.build files).data

def headerOfFiles (files : List Image.File) : Header :=
  headerOfRoot 0x7200 ((Image.build files).headerHash none)

/-- A cipher that decrypts every header to that of the card. -/
def cipherOfFiles (files : List Image.File) : HeaderCipher := fun _ =>
  (headerOfFiles files, .ok ())

theorem not_hasKeyArea_imageOfFiles (files : List Image.File) :
    ¬SplitImage.HasKeyArea (imageOfFiles files) := by
  intro hasKeyArea
  have unmarked : (imageOfFiles files).slice 0x1100 4 = Bytes.zeros 4 := by
    have start : Bytes.slice 0x1100 4 ((imageOfFiles files).take 0x7200) =
        (imageOfFiles files).slice 0x1100 4 := Bytes.slice_take _ (by decide)
    have zeros : (imageOfFiles files).take 0x7200 = Bytes.zeros 0x7200 :=
      List.take_left' (Bytes.length_zeros _)
    rw [← start, zeros, Bytes.slice, Bytes.zeros, List.drop_replicate, List.take_replicate]
    rfl
  have marked := hasKeyArea.2
  rw [unmarked] at marked
  exact absurd marked (by decide)

theorem bodyBytes_imageOfFiles (files : List Image.File) :
    bodyBytes (imageOfFiles files) = imageOfFiles files :=
  if_neg (not_hasKeyArea_imageOfFiles files)

/-- The contents of the files stand behind the table of the root partition. -/
theorem slice_imageOfFiles (files : List Image.File) (offset length : Nat) :
    (bodyBytes (imageOfFiles files)).slice (0x7200 + ((Image.table files).length + offset))
        length =
      Bytes.slice offset length (files.flatMap Prod.snd) := by
  have fixed : (Bytes.zeros 0x7200).length = 0x7200 := Bytes.length_zeros _
  rw [bodyBytes_imageOfFiles, imageOfFiles, Image.build, Bytes.slice_append_right (by omega),
    fixed, Nat.add_sub_cancel_left, Bytes.slice_append_right (Nat.le_add_right _ _),
    Nat.add_sub_cancel_left]

theorem headerWarnings_cipherOfFiles (files : List Image.File) (card : Card) :
    headerWarnings (cipherOfFiles files) card = [] := by
  unfold headerWarnings
  cases card.secondHeader with
  | none => rfl
  | some second => rfl

/-- A card with nothing but a root partition opens and mounts it. -/
theorem opens_imageOfFiles {files : List Image.File}
    (noZero : ∀ file ∈ files, '\x00' ∉ file.1.toList) (countFits : files.length < 2 ^ 32)
    (namesFit : (Image.names files).length < 2 ^ 32)
    (sizesFit : ∀ file ∈ files, file.2.length < 2 ^ 32) :
    ∃ card root,
      (ofImage (.memory (imageOfFiles files)) (cipherOfFiles files)).result = .ok card ∧
        card.root.fileSystem = some root ∧ card.decryptedHeader.rootAddress = 0x7200 ∧
        root.entries = Image.entries 0 files ∧ root.dataOffset = (Image.table files).length := by
  have shows := Storage.shows_memory (imageOfFiles files)
  have length : (bodyBytes (imageOfFiles files)).length =
      0x7200 + (Image.build files).data.length := by
    rw [bodyBytes_imageOfFiles, imageOfFiles, List.length_append, Bytes.length_zeros]
  obtain ⟨card, opened⟩ := result_ofImage shows (cipherOfFiles files) (by omega)
  have assembled := assembled_of_ofImage opened
  have header : card.decryptedHeader = headerOfFiles files := assembled.decryptedHeader_eq
  have address : (headerOfFiles files).rootAddress = 0x7200 :=
    rootAddress_headerOfRoot (by decide) _
  have hash : (headerOfFiles files).rootHash = (Image.build files).headerHash none :=
    rootHash_headerOfRoot _ _
  have salt : (headerOfFiles files).cardInfo.salt? = none := salt?_headerOfRoot _ _
  have inside : (headerOfFiles files).rootAddress ≤
      (bodyBytes (imageOfFiles files)).length := by
    omega
  have bodyShows := (SplitImage.shows_of_ofImage shows assembled.parts_eq).body
  have rootShows : (rootStorage card.parts.body (headerOfFiles files)).Shows
      (Image.build files).data := by
    have range := shows_rootStorage bodyShows inside
    rwa [address, bodyBytes_imageOfFiles, imageOfFiles, List.drop_left' (Bytes.length_zeros _)]
      at range
  have read := FileSystem.result_mount rootShows
    (some ((Image.build files).headerHash none)) none
  rw [Image.readTable_build noZero countFits namesFit sizesFit, ← hash, ← salt, ← header] at read
  obtain ⟨_, _, outcome, _, _⟩ := assembled.root_eq
  have mounted := outcome.fileSystem_eq (by rw [header, bodyShows.size_eq]; exact inside) read
  exact ⟨card, _, opened, mounted, header ▸ address, rfl, rfl⟩

end Gamecard.Card
