import Gamecard.Proofs.Derivation.Stratification

/-!
# The rules follow their stages

Each rule of the derivation writes to cells of its own stage or of a later one
only, and what it writes depends on cells of earlier stages only.  So the rules
in the order in which derivation applies them are stratified.
-/

namespace Gamecard.Derivation

/-- The rules of the derivation in order. -/
def rules : List Rule :=
  keyblobKeys :: keyblobCodeKeys :: fromKeyblobs

theorem follows_keyblobKeys : Follows 0 keyblobKeys where
  keeps store cell early := by
    unfold keyblobKeys
    split
    · exact absurd early (Nat.not_succ_le_self 0)
    · rfl
  looks {left right} agree := by
    funext cell
    unfold keyblobKeys
    split
    next generation =>
      rw [agree.source? (.scalar .secureBootKey) rfl, agree.source? (.scalar .tsecKey) rfl,
        agree.source? (.entry .keyblobKeySource generation) rfl]
    next => rfl

theorem follows_keyblobCodeKeys : Follows 1 keyblobCodeKeys where
  keeps store cell early := by
    unfold keyblobCodeKeys
    split
    · exact absurd early (Nat.not_succ_le_self 1)
    · exact absurd early (Nat.not_succ_le_self 1)
    · rfl
  looks {left right} agree := by
    funext cell
    unfold keyblobCodeKeys
    split
    next generation =>
      rw [agree.set? (.entry .keyblobKey generation) (Nat.le_refl 1),
        agree.source? (.scalar .keyblobMacKeySource) rfl]
    next =>
      rw [agree.set? (.entry .keyblobKey ⟨0, by decide⟩) (Nat.le_refl 1),
        agree.source? (.scalar .perConsoleKeySource) rfl]
    next => rfl

theorem AgreeUpTo.openKeyblob? {left right : Store} (agree : AgreeUpTo 2 left right)
    (generation : Fin keyblobCount) :
    openKeyblob? left generation = openKeyblob? right generation := by
  unfold Derivation.openKeyblob?
  rw [agree.source? (.entry .encryptedKeyblob generation) rfl,
    agree.set? (.entry .keyblobKey generation) (Nat.le_succ 1),
    agree.set? (.entry .keyblobMacKey generation) (Nat.le_refl 2)]

theorem AgreeUpTo.keyblobWarnings {left right : Store} (agree : AgreeUpTo 2 left right) :
    keyblobWarnings left = keyblobWarnings right := by
  unfold Derivation.keyblobWarnings
  simp only [agree.openKeyblob?]

theorem follows_keyblobs : Follows 2 keyblobs where
  keeps store cell early := by
    unfold keyblobs
    split
    · exact absurd early (Nat.not_succ_le_self 2)
    · rfl
  looks {left right} agree := by
    funext cell
    unfold keyblobs
    split
    next generation => rw [agree.openKeyblob? generation]
    next => rfl

theorem follows_keyblobContents : Follows 3 keyblobContents where
  keeps store cell early := by
    unfold keyblobContents
    split
    · exact absurd early (show ¬5 ≤ 3 by decide)
    · exact absurd early (show ¬7 ≤ 3 by decide)
    · rfl
  looks {left right} agree := by
    have blob (generation) :
        left.read (.entry .keyblob generation) = right.read (.entry .keyblob generation) :=
      agree _ (Nat.le_refl 3)
    funext cell
    unfold keyblobContents
    split
    next generation => simp only [blob]
    next generation => simp only [blob]
    next => rfl

theorem follows_signatureKeys : Follows 4 signatureKeys where
  keeps store cell early := by
    unfold signatureKeys
    split
    · exact absurd early (Nat.not_succ_le_self 4)
    · exact absurd early (Nat.not_succ_le_self 4)
    · exact absurd early (Nat.not_succ_le_self 4)
    · rfl
  looks {left right} agree := by
    have signature (place) :
        left.set? (.entry .tsecAuthSignature place) =
          right.set? (.entry .tsecAuthSignature place) :=
      agree.source? _ rfl
    funext cell
    unfold signatureKeys
    split
    next => simp only [agree.source? (.scalar .tsecRootKek) rfl, signature]
    next => simp only [agree.source? (.scalar .package1MacKek) rfl, signature]
    next => simp only [agree.source? (.scalar .package1Kek) rfl, signature]
    next => rfl

theorem follows_signatureMasterKeks : Follows 5 signatureMasterKeks where
  keeps store cell early := by
    unfold signatureMasterKeks
    split
    · exact absurd early (show ¬7 ≤ 5 by decide)
    · rfl
  looks {left right} agree := by
    have root (place) :
        left.set? (.entry .tsecRootKey place) = right.set? (.entry .tsecRootKey place) :=
      agree.set? _ (Nat.le_refl 5)
    funext cell
    unfold signatureMasterKeks
    split
    next generation =>
      simp only [root, agree.source? (.entry .masterKekSource generation) rfl]
    next => rfl

theorem follows_marikoMasterKeks : Follows 6 marikoMasterKeks where
  keeps store cell early := by
    unfold marikoMasterKeks
    split
    · exact absurd early (Nat.not_succ_le_self 6)
    · rfl
  looks {left right} agree := by
    funext cell
    unfold marikoMasterKeks
    split
    next generation =>
      rw [agree.source? (.scalar .marikoKek) rfl,
        agree.source? (.entry .marikoMasterKekSource generation) rfl]
    next => rfl

theorem follows_masterKeys : Follows 7 masterKeys where
  keeps store cell early := by
    unfold masterKeys
    split
    · exact absurd early (Nat.not_succ_le_self 7)
    · rfl
  looks {left right} agree := by
    funext cell
    unfold masterKeys
    split
    next generation =>
      rw [agree.source? (.scalar .masterKeySource) rfl,
        agree.set? (.entry .masterKek generation) (Nat.le_refl 7)]
    next => rfl

theorem AgreeUpTo.keyAreaKey? {left right : Store} (agree : AgreeUpTo 8 left right)
    (generation : Fin generationCount) (source : Option Key) :
    keyAreaKey? left generation source = keyAreaKey? right generation source := by
  unfold Derivation.keyAreaKey?
  rw [agree.set? (.entry .masterKey generation) (Nat.le_refl 8),
    agree.source? (.scalar .aesKekGenerationSource) rfl,
    agree.source? (.scalar .aesKeyGenerationSource) rfl]

theorem follows_perGenerationKeys : Follows 8 perGenerationKeys where
  keeps store cell early := by
    unfold perGenerationKeys
    split
    · exact absurd early (Nat.not_succ_le_self 8)
    · exact absurd early (Nat.not_succ_le_self 8)
    · exact absurd early (Nat.not_succ_le_self 8)
    · exact absurd early (Nat.not_succ_le_self 8)
    · exact absurd early (Nat.not_succ_le_self 8)
    · rfl
  looks {left right} agree := by
    funext cell
    unfold perGenerationKeys
    split
    next => rw [agree.keyAreaKey?, agree.source? (.scalar .keyAreaKeyApplicationSource) rfl]
    next => rw [agree.keyAreaKey?, agree.source? (.scalar .keyAreaKeyOceanSource) rfl]
    next => rw [agree.keyAreaKey?, agree.source? (.scalar .keyAreaKeySystemSource) rfl]
    next generation =>
      rw [agree.set? (.entry .masterKey generation) (Nat.le_refl 8),
        agree.source? (.scalar .titlekekSource) rfl]
    next generation =>
      rw [agree.set? (.entry .masterKey generation) (Nat.le_refl 8),
        agree.source? (.scalar .package2KeySource) rfl]
    next => rfl

theorem AgreeUpTo.commonKek? {left right : Store} (agree : AgreeUpTo 9 left right)
    (source keySeed : Option Key) :
    commonKek? left source keySeed = commonKek? right source keySeed := by
  unfold Derivation.commonKek?
  rw [agree.set? (.entry .masterKey ⟨0, by decide⟩) (Nat.le_succ 8),
    agree.source? (.scalar .aesKekGenerationSource) rfl]

theorem follows_commonKeys : Follows 9 commonKeys where
  keeps store cell early := by
    unfold commonKeys
    split
    · exact absurd early (Nat.not_succ_le_self 9)
    · exact absurd early (Nat.not_succ_le_self 9)
    · exact absurd early (Nat.not_succ_le_self 9)
    · exact absurd early (Nat.not_succ_le_self 9)
    · rfl
  looks {left right} agree := by
    funext cell
    unfold commonKeys
    split
    next =>
      simp only [agree.source? (.scalar .aesKeyGenerationSource) rfl, agree.commonKek?,
        agree.source? (.scalar .headerKekSource) rfl,
        agree.source? (.scalar .headerKeySource) rfl]
    next =>
      simp only [agree.source? (.scalar .aesKeyGenerationSource) rfl, agree.commonKek?,
        agree.source? (.scalar .sdCardKekSource) rfl,
        agree.source? (.scalar .sdCardSaveKeySource) rfl]
    next =>
      simp only [agree.source? (.scalar .aesKeyGenerationSource) rfl, agree.commonKek?,
        agree.source? (.scalar .sdCardKekSource) rfl,
        agree.source? (.scalar .sdCardNcaKeySource) rfl]
    next =>
      simp only [agree.commonKek?, agree.source? (.scalar .saveMacKekSource) rfl,
        agree.source? (.scalar .saveMacKeySource) rfl]
    next => rfl

theorem stratified_fromKeyblobs : Stratified 2 fromKeyblobs :=
  ⟨follows_keyblobs, follows_keyblobContents, follows_signatureKeys,
    follows_signatureMasterKeks, follows_marikoMasterKeks, follows_masterKeys,
    follows_perGenerationKeys, follows_commonKeys, trivial⟩

theorem stratified_rules : Stratified 0 rules :=
  ⟨follows_keyblobKeys, follows_keyblobCodeKeys, stratified_fromKeyblobs⟩

theorem derive_eq_run_fromKeyblobs (store : Store) :
    store.derive.1 = run fromKeyblobs (untilKeyblobs store) := by
  simp only [Store.derive, run]

theorem derive_eq_run (store : Store) : store.derive.1 = run rules store := by
  rw [derive_eq_run_fromKeyblobs, rules, run_cons, run_cons, untilKeyblobs]

/-- The derived store is a solution of the rules. -/
theorem read_derive (store : Store) (cell : Cell) :
    store.derive.1.read cell =
      (outcome? rules store.derive.1 cell).getD (store.read cell) := by
  rw [derive_eq_run]
  exact stratified_rules.read_run store cell

theorem agree_derive (store : Store) : AgreeUpTo 0 store.derive.1 store := by
  rw [derive_eq_run]
  exact stratified_rules.agree_run store

/-- The warnings are those that the derived store itself calls for. -/
theorem warnings_derive (store : Store) :
    store.derive.2 = keyblobWarnings store.derive.1 := by
  have agree : AgreeUpTo 2 store.derive.1 (untilKeyblobs store) := by
    rw [derive_eq_run_fromKeyblobs]
    exact stratified_fromKeyblobs.agree_run (untilKeyblobs store)
  rw [agree.keyblobWarnings, Store.derive]

end Gamecard.Derivation
