import Gamecard.Proofs.Card.Opening
import Gamecard.Proofs.Storage.Reading

/-!
# Where the structures of a card lie

Splitting an image loses nothing: the key area and the body one behind the other are the
image.  Each fixed structure of an opened card is a range of the body, or of the image in
the case of the initial data.  Whether there is a second header is told by one bit of the
first header as it is stored, whatever the cipher makes of it.
-/

namespace Gamecard

/-- The start of a range that is long enough. -/
theorem Bytes.fit_slice {bytes : Bytes} {offset length size : Nat} (covered : size ≤ length)
    (within : offset + length ≤ bytes.length) :
    (bytes.slice offset length).fit size = bytes.slice offset size := by
  have long : (bytes.slice offset length).length = length := length_slice_of_le within
  have filled : size - length = 0 := Nat.sub_eq_zero_of_le covered
  rw [fit, long, filled, zeros, List.replicate_zero, List.append_nil, ← slice_zero,
    slice_slice bytes (by omega), Nat.add_zero]

namespace SplitImage

variable {parts : SplitImage} {image : Bytes}

/-- The bytes of the key area, if there is one, and behind them those of the body. -/
def contents (parts : SplitImage) : Access IoError Bytes := do
  let keyArea ← parts.keyArea.elim (pure []) Storage.contents
  let body ← parts.body.contents
  pure (keyArea ++ body)

theorem Shows.result_contents (shows : Shows parts image) :
    parts.contents.result = .ok image := by
  have body := shows.body.contents
  rw [contents]
  by_cases hasKeyArea : HasKeyArea image
  · obtain ⟨keyArea, present, keyAreaShows⟩ := shows.keyArea hasKeyArea
    rw [bodyBytes, if_pos hasKeyArea] at body
    rw [present, Option.elim_some, Access.result_bind_of_eq_ok keyAreaShows.contents,
      Access.result_bind_of_eq_ok body, Access.result_pure, List.take_append_drop]
  · rw [bodyBytes, if_neg hasKeyArea] at body
    rw [shows.noKeyArea hasKeyArea, Option.elim_none,
      Access.result_bind_of_eq_ok (Access.result_pure []), Access.result_bind_of_eq_ok body,
      Access.result_pure, List.nil_append]

theorem Shows.isSome_keyArea_iff (shows : Shows parts image) :
    parts.keyArea.isSome ↔ HasKeyArea image := by
  constructor
  · intro present
    by_cases hasKeyArea : HasKeyArea image
    · exact hasKeyArea
    · rw [shows.noKeyArea hasKeyArea] at present
      cases present
  · intro hasKeyArea
    obtain ⟨keyArea, present, _⟩ := shows.keyArea hasKeyArea
    rw [present]
    rfl

/-- What is too small for a key area is not read. -/
theorem reads_ofImage_of_short {storage : Storage} (short : storage.size < keyAreaSize) :
    (ofImage storage).reads = [] := by
  rw [ofImage, if_pos short, Access.reads_pure]

end SplitImage

namespace Card

open SplitImage (bodyBytes HasKeyArea)

variable {storage : Storage} {image : Bytes} {cipher : HeaderCipher} {card : Card}

/-- The certificate that belongs to the second header. -/
def secondCertificate? (card : Card) : Option (Block 0x400) :=
  card.secondHeader.map SecondHeader.certificate

/-- What an opened card was made of: the first two kilobytes of the body, the certificate
further on, and what was read of the key area. -/
structure MadeOf (body : Bytes) (cipher : HeaderCipher) (card : Card) : Prop where
  header_eq : card.header = Block.fit 0x200 (body.slice 0 bodyHeaderSize)
  secondHeader_eq : card.secondHeader =
    if card.header.flags.hasSecondHeader then
      some (readSecondHeader cipher (body.slice 0 bodyHeaderSize)).1
    else none
  certificate_eq : card.certificate = Block.fit 0x200 (body.slice certificateOffset 0x200)
  initialData_eq : (readInitialData card.parts.keyArea).result = .ok card.initialData

theorem madeOf_of_ofImage (shows : storage.Shows image)
    (opened : (ofImage storage cipher).result = .ok card) :
    MadeOf (bodyBytes image) cipher card := by
  have long : 0x7200 ≤ (bodyBytes image).length := (opens_iff shows cipher).mp ⟨card, opened⟩
  have front : 0 + bodyHeaderSize ≤ (bodyBytes image).length :=
    Nat.le_trans (by decide) long
  have back : certificateOffset + 0x200 ≤ (bodyBytes image).length := long
  unfold ofImage at opened
  obtain ⟨parts, split, opened⟩ := Access.exists_of_result_bind opened
  obtain ⟨initialData, initialRead, opened⟩ := Access.exists_of_result_bind opened
  have body := (SplitImage.shows_of_ofImage shows split).body
  rw [body.result_read_bind front] at opened
  simp only at opened
  rw [body.result_read_bind back] at opened
  obtain ⟨⟨root, rootWarnings⟩, _, opened⟩ := Access.exists_of_result_bind opened
  obtain ⟨⟨partitions, partitionWarnings⟩, _, opened⟩ := Access.exists_of_result_bind opened
  cases opened
  refine ⟨rfl, ?_, rfl, initialRead⟩
  by_cases second :
      (Header.flags (Block.fit 0x200 ((bodyBytes image).slice 0 bodyHeaderSize))).hasSecondHeader
  · simp only [if_pos second]
  · simp only [if_neg second]

/-- The second header with its certificate, or the first one in its place. -/
inductive SignedPart (body : Bytes) (card : Card) : Prop where
  | own {certificate : Block 0x400} : (body.getD 0x10F 0).toNat.testBit 7 = true →
      card.signedHeader.bytes = body.slice 0x200 0x200 →
      card.secondCertificate? = some certificate → certificate.bytes = body.slice 0x400 0x400 →
      SignedPart body card
  | shared : (body.getD 0x10F 0).toNat.testBit 7 = false →
      card.signedHeader = card.header → card.decryptedSignedHeader = card.decryptedHeader →
      card.secondCertificate? = none → SignedPart body card

/-- Every fixed structure of a card is a range of its image. -/
structure LiesIn (image : Bytes) (card : Card) : Prop where
  parts : (SplitImage.ofImage (.memory image)).result = .ok card.parts
  body : card.parts.body.contents.result = .ok (bodyBytes image)
  header : card.header.bytes = (bodyBytes image).slice 0 0x200
  signed : SignedPart (bodyBytes image) card
  certificate : card.certificate.bytes = (bodyBytes image).slice 0x7000 0x200
  initialData : card.initialData.map Block.bytes =
    if HasKeyArea image then some (image.slice 0 0x200) else none

/-- The second header and its certificate are ranges of the body. -/
theorem bytes_readSecondHeader {body : Bytes} (cipher : HeaderCipher)
    (long : 0x7200 ≤ body.length) :
    (readSecondHeader cipher (body.slice 0 bodyHeaderSize)).1.header.bytes =
        body.slice 0x200 0x200 ∧
      (readSecondHeader cipher (body.slice 0 bodyHeaderSize)).1.certificate.bytes =
        body.slice 0x400 0x400 := by
  have header : (body.slice 0 bodyHeaderSize).slice 0x200 0x200 = body.slice 0x200 0x200 :=
    Bytes.slice_slice body (by decide)
  have certificate : (body.slice 0 bodyHeaderSize).slice 0x400 0x400 = body.slice 0x400 0x400 :=
    Bytes.slice_slice body (by decide)
  constructor
  · change ((body.slice 0 bodyHeaderSize).slice 0x200 0x200).fit 0x200 = _
    rw [header]
    exact Bytes.fit_slice (Nat.le_refl _) (Nat.le_trans (by decide) long)
  · change ((body.slice 0 bodyHeaderSize).slice 0x400 0x400).fit 0x400 = _
    rw [certificate]
    exact Bytes.fit_slice (Nat.le_refl _) (Nat.le_trans (by decide) long)

namespace MadeOf

variable {body : Bytes}

theorem bytes_header (madeOf : MadeOf body cipher card) (long : 0x7200 ≤ body.length) :
    card.header.bytes = body.slice 0 0x200 := by
  rw [madeOf.header_eq, Block.bytes_fit]
  exact Bytes.fit_slice (by decide) (Nat.le_trans (by decide) long)

theorem bytes_certificate (madeOf : MadeOf body cipher card) (long : 0x7200 ≤ body.length) :
    card.certificate.bytes = body.slice 0x7000 0x200 := by
  rw [madeOf.certificate_eq, Block.bytes_fit]
  exact Bytes.fit_slice (Nat.le_refl _) long

/-- The bit that tells of a second header is that of the stored byte. -/
theorem hasSecondHeader_eq (madeOf : MadeOf body cipher card) (long : 0x7200 ≤ body.length) :
    card.header.flags.hasSecondHeader = (body.getD 0x10F 0).toNat.testBit 7 := by
  have stored : Block.byteAt card.header 0x10F = body.getD 0x10F 0 := by
    rw [Block.byteAt, madeOf.bytes_header long, Bytes.slice_zero, List.getD_eq_getElem?_getD,
      List.getElem?_take_of_lt (by decide), List.getD_eq_getElem?_getD]
  exact congrArg (fun byte : UInt8 => byte.toNat.testBit 7) stored

theorem signedPart (madeOf : MadeOf body cipher card) (long : 0x7200 ≤ body.length) :
    SignedPart body card := by
  have flag := madeOf.hasSecondHeader_eq long
  have second := madeOf.secondHeader_eq
  cases marked : (body.getD 0x10F 0).toNat.testBit 7 with
  | true =>
      obtain ⟨header, certificate⟩ := bytes_readSecondHeader cipher long
      rw [if_pos (flag.trans marked)] at second
      refine .own marked ?_ ?_ certificate
      · rw [signedHeader, second]
        exact header
      · rw [secondCertificate?, second]
        rfl
  | false =>
      rw [if_neg (by rw [flag, marked]; exact Bool.false_ne_true)] at second
      refine .shared marked ?_ ?_ ?_
      · rw [signedHeader, second]
        rfl
      · rw [decryptedSignedHeader, second]
        rfl
      · rw [secondCertificate?, second]
        rfl

theorem bytes_initialData (madeOf : MadeOf body cipher card)
    (shows : card.parts.Shows image) :
    card.initialData.map Block.bytes =
      if HasKeyArea image then some (image.slice 0 0x200) else none := by
  have read := madeOf.initialData_eq
  by_cases hasKeyArea : HasKeyArea image
  · obtain ⟨keyArea, present, keyAreaShows⟩ := shows.keyArea hasKeyArea
    have within : 0 + 0x200 ≤ (image.take 0x1000).length := by
      have long := hasKeyArea.1
      rw [List.length_take]
      omega
    rw [present, readInitialData, keyAreaShows.result_read_bind within] at read
    rw [if_pos hasKeyArea, ← Except.ok.inj read, Option.map_some, Block.bytes_fit,
      Bytes.fit_slice (Nat.le_refl _) within, Bytes.slice_take image (by decide)]
  · rw [shows.noKeyArea hasKeyArea] at read
    rw [if_neg hasKeyArea, ← Except.ok.inj read]
    rfl

end MadeOf

theorem liesIn_of_ofImage (opened : (ofImage (.memory image) cipher).result = .ok card) :
    LiesIn image card := by
  have shows := Storage.shows_memory image
  have long : 0x7200 ≤ (bodyBytes image).length := (opens_iff shows cipher).mp ⟨card, opened⟩
  have split := (assembled_of_ofImage opened).parts_eq
  have partsShow := SplitImage.shows_of_ofImage shows split
  have madeOf := madeOf_of_ofImage shows opened
  exact ⟨split, partsShow.body.contents, madeOf.bytes_header long, madeOf.signedPart long,
    madeOf.bytes_certificate long, madeOf.bytes_initialData partsShow⟩

/-- An image is split without loss, with a key area exactly if a marked header follows one,
and without a read if it is smaller than that.  The structures of a card that opens are
ranges of its body, wherever that starts and whatever the cipher does. -/
theorem structures_lieIn_image (image : Bytes) :
    (∀ parts, (SplitImage.ofImage (.memory image)).result = .ok parts →
        parts.contents.result = .ok image ∧ (parts.keyArea.isSome ↔ HasKeyArea image)) ∧
      (image.length < 0x1000 → (SplitImage.ofImage (.memory image)).reads = []) ∧
      ∀ cipher card, (ofImage (.memory image) cipher).result = .ok card → LiesIn image card := by
  refine ⟨?_, ?_, fun cipher card => liesIn_of_ofImage⟩
  · intro parts split
    have shows := SplitImage.shows_of_ofImage (Storage.shows_memory image) split
    exact ⟨shows.result_contents, shows.isSome_keyArea_iff⟩
  · intro short
    exact SplitImage.reads_ofImage_of_short short

end Card

end Gamecard
