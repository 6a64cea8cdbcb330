import Gamecard.Key.Keyblob
import Gamecard.Proofs.Cipher.Modes

/-!
# Keyblobs opened and made

A blob is its code, its counter and its hidden payload, and nothing else.  So a
payload that was encrypted is decrypted again, and a blob that opens is the one that
its payload encrypts to from the same counter.  A blob opens exactly if its code is
that of everything behind it.
-/

namespace Gamecard

namespace EncryptedKeyblob

variable (code counter : Key) (payload : Keyblob)

theorem code_ofParts : (ofParts code counter payload).code = code :=
  Block.ext (Bytes.slice_past (List.length_nil : ([] : Bytes).length = 0) code.length_bytes _)

theorem counter_ofParts : (ofParts code counter payload).counter = counter :=
  Block.ext (Bytes.slice_past code.length_bytes counter.length_bytes _)

theorem covered_ofParts :
    (ofParts code counter payload).covered = counter.bytes ++ payload.bytes :=
  List.drop_left' code.length_bytes

theorem payload_ofParts : (ofParts code counter payload).payload = payload := by
  have front : (code.bytes ++ counter.bytes).length = 0x20 := by
    rw [List.length_append, code.length_bytes, counter.length_bytes]
  have middle := Bytes.slice_past front payload.length_bytes []
  rw [List.append_nil, List.append_assoc] at middle
  exact Block.ext middle

theorem payload_eq_drop (blob : EncryptedKeyblob) :
    blob.payload.bytes = blob.bytes.drop 0x20 := by
  have rest := Bytes.slice_rest 0x20 blob.bytes
  rw [blob.length_bytes] at rest
  exact rest

theorem covered_eq (blob : EncryptedKeyblob) :
    blob.covered = blob.counter.bytes ++ blob.payload.bytes := by
  rw [payload_eq_drop]
  exact (Bytes.slice_append_drop 0x10 0x10 blob.bytes).symm

theorem ofParts_parts (blob : EncryptedKeyblob) :
    ofParts blob.code blob.counter blob.payload = blob := by
  apply Block.ext
  calc
    (ofParts blob.code blob.counter blob.payload).bytes =
        blob.code.bytes ++ (blob.counter.bytes ++ blob.payload.bytes) := rfl
    _ = blob.code.bytes ++ blob.covered := by rw [covered_eq]
    _ = blob.bytes := Bytes.slice_append_drop 0 0x10 blob.bytes

/-- Nothing is decrypted before the code has been checked. -/
theorem decrypt_eq_ok_iff (blob : EncryptedKeyblob) (key codeKey : Key) (generation : Nat)
    (opened : Keyblob) :
    blob.decrypt key codeKey generation = .ok opened ↔
      Aes.messageCode codeKey blob.covered = blob.code ∧
        Aes.applyCounter key blob.counter blob.payload = opened := by
  unfold decrypt
  by_cases valid : Aes.messageCode codeKey blob.covered = blob.code
  · rw [if_pos valid, Except.ok.injEq]
    exact (and_iff_right valid).symm
  · rw [if_neg valid]
    simp only [reduceCtorEq, valid, false_and]

end EncryptedKeyblob

namespace Keyblob

open EncryptedKeyblob

variable (payload : Keyblob) (key codeKey counter : Key)

theorem decrypt_encrypt (generation : Nat) :
    (payload.encrypt key codeKey counter).decrypt key codeKey generation = .ok payload := by
  apply (decrypt_eq_ok_iff _ _ _ _ _).mpr
  rw [encrypt]
  constructor
  · rw [covered_ofParts, code_ofParts]
  · rw [counter_ofParts, payload_ofParts, Aes.applyCounter_applyCounter]

/-- A blob that opens is what its payload encrypts to. -/
theorem encrypt_of_decrypt {blob : EncryptedKeyblob} {generation : Nat}
    (opens : blob.decrypt key codeKey generation = .ok payload) :
    payload.encrypt key codeKey blob.counter = blob := by
  obtain ⟨valid, decrypted⟩ := (decrypt_eq_ok_iff _ _ _ _ _).mp opens
  rw [encrypt, ← decrypted, Aes.applyCounter_applyCounter, ← covered_eq, valid]
  exact ofParts_parts blob

end Keyblob

namespace EncryptedKeyblob

/-- Decryption inverts the format of keyblobs: behind its code a blob has the counter
and the payload combined with nine blocks of key stream, the code covers both, and a
blob opens exactly if its code is right, to the payload that encrypts to it. -/
theorem decrypt_format (key codeKey : Key) (generation : Nat) :
    (∀ (payload : Keyblob) (counter : Key), ∃ hidden : Keyblob,
        hidden.bytes = payload.bytes.xor (Aes.keyStream key counter 9) ∧
        (payload.encrypt key codeKey counter).bytes =
          (Aes.messageCode codeKey (counter.bytes ++ hidden.bytes)).bytes ++
            (counter.bytes ++ hidden.bytes) ∧
        (payload.encrypt key codeKey counter).decrypt key codeKey generation =
          .ok payload) ∧
      ∀ blob : EncryptedKeyblob,
        ((∃ payload, blob.decrypt key codeKey generation = .ok payload) ↔
          blob.bytes.take 0x10 = (Aes.messageCode codeKey (blob.bytes.drop 0x10)).bytes) ∧
        (∀ payload, blob.decrypt key codeKey generation = .ok payload →
          payload.encrypt key codeKey blob.counter = blob) ∧
        (blob.bytes.take 0x10 ≠ (Aes.messageCode codeKey (blob.bytes.drop 0x10)).bytes →
          blob.decrypt key codeKey generation = .error (.keyblobCode generation)) := by
  constructor
  · intro payload counter
    exact ⟨Aes.applyCounter key counter payload, Aes.bytes_applyCounter key counter payload,
      rfl, payload.decrypt_encrypt key codeKey counter generation⟩
  · intro blob
    have checked : Aes.messageCode codeKey blob.covered = blob.code ↔
        blob.bytes.take 0x10 = (Aes.messageCode codeKey (blob.bytes.drop 0x10)).bytes := by
      constructor
      · intro valid
        exact (congrArg Block.bytes valid).symm
      · intro valid
        exact Block.ext valid.symm
    refine ⟨?_, fun payload opens => payload.encrypt_of_decrypt key codeKey opens, ?_⟩
    · rw [← checked]
      constructor
      · rintro ⟨payload, opens⟩
        exact ((decrypt_eq_ok_iff _ _ _ _ _).mp opens).1
      · intro valid
        exact ⟨_, (decrypt_eq_ok_iff _ _ _ _ _).mpr ⟨valid, rfl⟩⟩
    · intro wrong
      exact if_neg fun valid => wrong (checked.mp valid)

end EncryptedKeyblob

end Gamecard
