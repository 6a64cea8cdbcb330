import Gamecard.Proofs.Card.Opening
import Gamecard.Proofs.Cipher.Modes

/-!
# What the header cipher changes

The encrypted region of a header is seven blocks, and nothing in front of it ever
changes.  The chain starts from a block in front of the region, so that it starts the
same before and after, and decryption and encryption undo each other.  Whatever a
card says in front of the region is therefore said by its raw and by its decrypted
header alike.
-/

namespace Gamecard

namespace Aes

theorem length_flatMap_bytes (blocks : List Key) :
    (blocks.flatMap Block.bytes).length = 16 * blocks.length := by
  induction blocks with
  | nil => rfl
  | cons block rest induction =>
      rw [List.flatMap_cons, List.length_append, block.length_bytes, induction,
        List.length_cons]
      omega

theorem pieces_flatMap_bytes (blocks : List Key) :
    Bytes.pieces 16 blocks.length (blocks.flatMap Block.bytes) = blocks.map Block.bytes := by
  induction blocks with
  | nil => rfl
  | cons block rest induction =>
      rw [List.length_cons, List.flatMap_cons, Bytes.pieces_append block.length_bytes, induction,
        List.map_cons]

/-- The bytes of some blocks are taken apart into these blocks. -/
theorem wholeBlocks?_flatMap (blocks : List Key) :
    wholeBlocks? (blocks.flatMap Block.bytes) = some blocks := by
  have whole : (blocks.flatMap Block.bytes).length % 16 = 0 := by
    rw [length_flatMap_bytes]
    omega
  have count : (blocks.flatMap Block.bytes).length / 16 = blocks.length := by
    rw [length_flatMap_bytes]
    omega
  have fitted (block : Key) : Block.fit 16 block.bytes = block :=
    Block.ext (Bytes.fit_of_length_eq block.length_bytes)
  rw [wholeBlocks?, if_pos whole, count, pieces_flatMap_bytes, List.map_map]
  exact congrArg some (List.map_id'' fitted blocks)

theorem exists_blocks {count : Nat} {data : Bytes} (long : data.length = 16 * count) :
    ∃ blocks : List Key, blocks.length = count ∧ blocks.flatMap Block.bytes = data := by
  induction count generalizing data with
  | zero => exact ⟨[], rfl, (List.length_eq_zero_iff.mp long).symm⟩
  | succ count induction =>
      have first : (data.take 16).length = 16 := by
        rw [List.length_take]
        omega
      have later : (data.drop 16).length = 16 * count := by
        rw [List.length_drop]
        omega
      obtain ⟨rest, counted, same⟩ := induction later
      refine ⟨⟨data.take 16, first⟩ :: rest, ?_, ?_⟩
      · rw [List.length_cons, counted]
      · rw [List.flatMap_cons, same]
        exact List.take_append_drop 16 data

end Aes

namespace Header

/-- The headers are the same in front of their encrypted regions. -/
def SameFront (left right : Header) : Prop :=
  left.bytes.take 0x190 = right.bytes.take 0x190

namespace SameFront

variable {left right : Header}

theorem slice_eq (same : SameFront left right) {offset length : Nat}
    (inside : offset + length ≤ 0x190) :
    left.bytes.slice offset length = right.bytes.slice offset length := by
  rw [← Bytes.slice_take left.bytes inside, same, Bytes.slice_take right.bytes inside]

theorem chainStart_eq (same : SameFront left right) : left.chainStart = right.chainStart := by
  apply Block.ext
  exact congrArg List.reverse (same.slice_eq (by decide))

theorem byteAt_eq (same : SameFront left right) {offset : Nat} (inside : offset < 0x190) :
    Block.byteAt left offset = Block.byteAt right offset := by
  have front (header : Header) :
      (header.bytes.take 0x190).getD offset 0 = Block.byteAt header offset := by
    rw [Block.byteAt, List.getD_eq_getElem?_getD, List.getElem?_take_of_lt inside,
      List.getD_eq_getElem?_getD]
  rw [← front, same, front]

theorem flags_eq (same : SameFront left right) : left.flags = right.flags :=
  congrArg CardFlags.mk (same.byteAt_eq (by decide))

theorem rootAddress_eq (same : SameFront left right) : left.rootAddress = right.rootAddress :=
  congrArg Bytes.littleEndian (same.slice_eq (by decide))

theorem rootHash_eq (same : SameFront left right) : left.rootHash = right.rootHash :=
  Block.ext (same.slice_eq (by decide))

theorem initialDataHash_eq (same : SameFront left right) :
    left.initialDataHash = right.initialDataHash :=
  Block.ext (same.slice_eq (by decide))

end SameFront

theorem length_front (header : Header) : (header.bytes.take 0x190).length = 0x190 := by
  rw [List.length_take, header.length_bytes]
  rfl

theorem sameFront_withEncryptedBlocks (header : Header) (blocks : List Key) :
    (header.withEncryptedBlocks blocks).SameFront header :=
  List.take_left' header.length_front

theorem encryptedData_withEncryptedBlocks (header : Header) {blocks : List Key}
    (seven : blocks.length = 7) :
    (header.withEncryptedBlocks blocks).encryptedData.bytes = blocks.flatMap Block.bytes := by
  have region : (blocks.flatMap Block.bytes).length = 0x70 := by
    rw [Aes.length_flatMap_bytes, seven]
  have behind := Bytes.slice_past header.length_front region []
  rw [List.append_nil, ← Bytes.fit_of_length_eq region] at behind
  rw [← Bytes.fit_of_length_eq region]
  exact behind

theorem withEncryptedBlocks_twice (header : Header) (first second : List Key) :
    (header.withEncryptedBlocks first).withEncryptedBlocks second =
      header.withEncryptedBlocks second :=
  Block.ext (congrArg (· ++ _) (header.sameFront_withEncryptedBlocks first))

/-- The encrypted region is seven blocks, which put back change nothing. -/
theorem exists_encryptedBlocks (header : Header) :
    ∃ blocks : List Key, blocks.length = 7 ∧
      blocks.flatMap Block.bytes = header.encryptedData.bytes ∧
      header.withEncryptedBlocks blocks = header := by
  have long : header.encryptedData.bytes.length = 16 * 7 := header.encryptedData.length_bytes
  obtain ⟨blocks, seven, same⟩ := Aes.exists_blocks long
  refine ⟨blocks, seven, same, ?_⟩
  have rest := Bytes.slice_rest 0x190 header.bytes
  rw [header.length_bytes] at rest
  apply Block.ext
  calc
    (header.withEncryptedBlocks blocks).bytes =
        header.bytes.take 0x190 ++ Bytes.fit 0x70 (blocks.flatMap Block.bytes) := rfl
    _ = header.bytes.take 0x190 ++ header.encryptedData.bytes := by
      rw [same, Bytes.fit_of_length_eq header.encryptedData.length_bytes]
    _ = header.bytes.take 0x190 ++ header.bytes.drop 0x190 := congrArg _ rest
    _ = header.bytes := List.take_append_drop 0x190 header.bytes

end Header

namespace HeaderCipher

open Header (SameFront)

/-- The blocks of the region go through the chain; none are ever left over. -/
theorem withKey_some (chain : Key → Key → List Key → List Key) (fault : PaddingFault)
    (key : Key) {header : Header} {blocks : List Key}
    (region : blocks.flatMap Block.bytes = header.encryptedData.bytes) :
    withKey chain fault (some key) header =
      (header.withEncryptedBlocks (chain key header.chainStart blocks), .ok ()) := by
  simp only [withKey, ← region, Aes.wholeBlocks?_flatMap]

/-- A chain that undoes another one takes back what the cipher did to a header. -/
theorem withKey_undone {chain undo : Key → Key → List Key → List Key}
    (keeps : ∀ key start blocks, (chain key start blocks).length = blocks.length)
    (undoes : ∀ key start blocks, undo key start (chain key start blocks) = blocks)
    (fault other : PaddingFault) (key : Key) (header : Header) :
    ∃ changed, withKey chain fault (some key) header = (changed, .ok ()) ∧
      withKey undo other (some key) changed = (header, .ok ()) ∧
      changed.SameFront header := by
  obtain ⟨blocks, seven, region, whole⟩ := header.exists_encryptedBlocks
  have front := header.sameFront_withEncryptedBlocks (chain key header.chainStart blocks)
  have changedRegion := header.encryptedData_withEncryptedBlocks
    ((keeps key header.chainStart blocks).trans seven)
  refine ⟨_, withKey_some chain fault key region, ?_, front⟩
  rw [withKey_some undo other key changedRegion.symm, front.chainStart_eq, undoes,
    Header.withEncryptedBlocks_twice, whole]

theorem decryption_encryption (key : Key) (header : Header) :
    ∃ encrypted, encryption (some key) header = (encrypted, .ok ()) ∧
      decryption (some key) encrypted = (header, .ok ()) ∧ encrypted.SameFront header :=
  withKey_undone Aes.length_chainEncrypt Aes.chainDecrypt_chainEncrypt _ _ key header

theorem encryption_decryption (key : Key) (header : Header) :
    ∃ decrypted, decryption (some key) header = (decrypted, .ok ()) ∧
      encryption (some key) decrypted = (header, .ok ()) ∧ decrypted.SameFront header :=
  withKey_undone Aes.length_chainDecrypt Aes.chainEncrypt_chainDecrypt _ _ key header

end HeaderCipher

namespace Card

theorem sameFront_decryptHeader (key : Option Key) (header : Header) :
    (decryptHeader (HeaderCipher.decryption key) header).1.SameFront header := by
  cases key with
  | none => exact rfl
  | some key =>
      obtain ⟨decrypted, result, _, front⟩ := HeaderCipher.encryption_decryption key header
      rw [decryptHeader, result]
      exact front

/-- What a summary says about a second signature of the header. -/
theorem member?_summary (card : Card) :
    (card.summary.member? "header").bind (Json.member? "has_header_sign2") =
      some (.bool card.decryptedHeader.flags.hasSecondHeader) := by
  rfl

theorem headerCipher_inverts (key : Key) (header : Header) :
    (∃ encrypted, HeaderCipher.encryption (some key) header = (encrypted, .ok ()) ∧
        HeaderCipher.decryption (some key) encrypted = (header, .ok ()) ∧
        encrypted.bytes.take 0x190 = header.bytes.take 0x190) ∧
      (∃ decrypted, HeaderCipher.decryption (some key) header = (decrypted, .ok ()) ∧
        HeaderCipher.encryption (some key) decrypted = (header, .ok ()) ∧
        decrypted.bytes.take 0x190 = header.bytes.take 0x190) ∧
      HeaderCipher.encryption none header =
        (header, .error (.missingKey (.scalar .xciHeaderKey))) ∧
      HeaderCipher.decryption none header =
        (header, .error (.missingKey (.scalar .xciHeaderKey))) ∧
      ∀ (storage : Storage) (held : Option Key) (card : Card),
        (ofImage storage (HeaderCipher.decryption held)).result = .ok card →
          card.decryptedHeader.flags = card.header.flags ∧
          card.decryptedHeader.rootAddress = card.header.rootAddress ∧
          card.decryptedHeader.rootHash = card.header.rootHash ∧
          card.decryptedHeader.initialDataHash = card.header.initialDataHash ∧
          (card.summary.member? "header").bind (Json.member? "has_header_sign2") =
            some (.bool card.secondHeader.isSome) := by
  refine ⟨HeaderCipher.decryption_encryption key header,
    HeaderCipher.encryption_decryption key header, rfl, rfl, ?_⟩
  intro storage held card opened
  have assembled := assembled_of_ofImage opened
  have front := sameFront_decryptHeader held card.header
  rw [← assembled.decryptedHeader_eq] at front
  refine ⟨front.flags_eq, front.rootAddress_eq, front.rootHash_eq, front.initialDataHash_eq, ?_⟩
  rw [member?_summary, front.flags_eq, assembled.isSome_secondHeader]

end Card

end Gamecard
