import Gamecard.Proofs.Derivation.Rules
import Mathlib.Logic.Basic

/-!
# What derivation makes of a store

The closed form gives for every cell the value that it has in the derived
store.  Keys that derivation only reads are taken from the store before, keys
that it computes from the store after; a cell whose inputs are not all set
keeps what it had.
-/

namespace Gamecard.Derivation

def unwrapOr (kek source former : Key) : Key :=
  if kek.isSet ∧ source.isSet then unwrap kek source else former

def signatureKeyOr (kek signature former : Key) : Key :=
  if kek.isSet ∧ signature.isSet then signatureKey kek signature else former

def keyOr (key former : Key) : Key :=
  if key.isSet then key else former

def keyAreaKeyOr (before after : Store) (generation : Fin 32) (source former : Key) : Key :=
  let masterKey : Key := after.read (.entry .masterKey generation)
  let kekSeed : Key := before.read (.scalar .aesKekGenerationSource)
  let keySeed : Key := before.read (.scalar .aesKeyGenerationSource)
  if masterKey.isSet ∧ kekSeed.isSet ∧ keySeed.isSet ∧ source.isSet then
    unwrap (unwrap (unwrap masterKey kekSeed) source) keySeed
  else former

/-- A pair of keys that the first master key gives, if all its inputs are set. -/
def xtsKeyOr (before after : Store) (kekSource : Key) (source former : XtsKey) : XtsKey :=
  let masterKey : Key := after.read (.entry .masterKey 0)
  let kekSeed : Key := before.read (.scalar .aesKekGenerationSource)
  let keySeed : Key := before.read (.scalar .aesKeyGenerationSource)
  if keySeed.isSet ∧ masterKey.isSet ∧ kekSeed.isSet ∧ kekSource.isSet ∧ source.isSet then
    unwrapXts (unwrap (unwrap (unwrap masterKey kekSeed) kekSource) keySeed) source
  else former

/-- Whether the keyblob of a generation and both of its keys are set. -/
def keyblobIsReady (before after : Store) (generation : Fin 6) : Bool :=
  let blob : EncryptedKeyblob := before.read (.entry .encryptedKeyblob generation)
  let key : Key := after.read (.entry .keyblobKey generation)
  let codeKey : Key := after.read (.entry .keyblobMacKey generation)
  blob.isSet && key.isSet && codeKey.isSet

def keyblobIsIntact (before after : Store) (generation : Fin 6) : Bool :=
  let blob : EncryptedKeyblob := before.read (.entry .encryptedKeyblob generation)
  let codeKey : Key := after.read (.entry .keyblobMacKey generation)
  Aes.messageCode codeKey blob.covered = blob.code

def keyblobPayload (before after : Store) (generation : Fin 6) : Keyblob :=
  let blob : EncryptedKeyblob := before.read (.entry .encryptedKeyblob generation)
  Aes.applyCounter (after.read (.entry .keyblobKey generation)) blob.counter blob.payload

/-- The value of a cell after derivation. -/
def closedForm (before after : Store) : (cell : Cell) → Block cell.size
  | .entry .keyblobKey generation =>
    let boot : Key := before.read (.scalar .secureBootKey)
    let tsec : Key := before.read (.scalar .tsecKey)
    let source : Key := before.read (.entry .keyblobKeySource generation)
    if boot.isSet ∧ tsec.isSet ∧ source.isSet then unwrap boot (unwrap tsec source)
    else before.read (.entry .keyblobKey generation)
  | .entry .keyblobMacKey generation =>
    unwrapOr (after.read (.entry .keyblobKey generation))
      (before.read (.scalar .keyblobMacKeySource))
      (before.read (.entry .keyblobMacKey generation))
  | .scalar .deviceKey =>
    unwrapOr (after.read (.entry .keyblobKey 0))
      (before.read (.scalar .perConsoleKeySource)) (before.read (.scalar .deviceKey))
  | .entry .keyblob generation =>
    if keyblobIsReady before after generation ∧ keyblobIsIntact before after generation then
      keyblobPayload before after generation
    else before.read (.entry .keyblob generation)
  | .entry .tsecRootKey place =>
    signatureKeyOr (before.read (.scalar .tsecRootKek))
      (before.read (.entry .tsecAuthSignature place))
      (before.read (.entry .tsecRootKey place))
  | .entry .package1MacKey generation =>
    let former : Key := before.read (.entry .package1MacKey generation)
    if late : 6 ≤ generation.val then
      signatureKeyOr (before.read (.scalar .package1MacKek))
        (before.read (.entry .tsecAuthSignature (generation.subNat 6 late))) former
    else former
  | .entry .package1Key generation =>
    let former : Key := before.read (.entry .package1Key generation)
    if late : 6 ≤ generation.val then
      signatureKeyOr (before.read (.scalar .package1Kek))
        (before.read (.entry .tsecAuthSignature (generation.subNat 6 late))) former
    else
      keyOr (Keyblob.package1Key
        (after.read (.entry .keyblob (generation.castLT (Nat.not_le.mp late))))) former
  | .entry .masterKek generation =>
    let former : Key := before.read (.entry .masterKek generation)
    unwrapOr (before.read (.scalar .marikoKek))
      (before.read (.entry .marikoMasterKekSource generation))
      (if late : 6 ≤ generation.val then
        unwrapOr (after.read (.entry .tsecRootKey (generation.subNat 6 late)))
          (before.read (.entry .masterKekSource generation)) former
      else
        keyOr (Keyblob.masterKek
          (after.read (.entry .keyblob (generation.castLT (Nat.not_le.mp late))))) former)
  | .entry .masterKey generation =>
    unwrapOr (after.read (.entry .masterKek generation))
      (before.read (.scalar .masterKeySource)) (before.read (.entry .masterKey generation))
  | .entry .keyAreaKeyApplication generation =>
    keyAreaKeyOr before after generation
      (before.read (.scalar .keyAreaKeyApplicationSource))
      (before.read (.entry .keyAreaKeyApplication generation))
  | .entry .keyAreaKeyOcean generation =>
    keyAreaKeyOr before after generation (before.read (.scalar .keyAreaKeyOceanSource))
      (before.read (.entry .keyAreaKeyOcean generation))
  | .entry .keyAreaKeySystem generation =>
    keyAreaKeyOr before after generation (before.read (.scalar .keyAreaKeySystemSource))
      (before.read (.entry .keyAreaKeySystem generation))
  | .entry .titlekek generation =>
    unwrapOr (after.read (.entry .masterKey generation))
      (before.read (.scalar .titlekekSource)) (before.read (.entry .titlekek generation))
  | .entry .package2Key generation =>
    unwrapOr (after.read (.entry .masterKey generation))
      (before.read (.scalar .package2KeySource))
      (before.read (.entry .package2Key generation))
  | .scalar .headerKey =>
    xtsKeyOr before after (before.read (.scalar .headerKekSource))
      (before.read (.scalar .headerKeySource)) (before.read (.scalar .headerKey))
  | .scalar .sdCardSaveKey =>
    xtsKeyOr before after (before.read (.scalar .sdCardKekSource))
      (before.read (.scalar .sdCardSaveKeySource)) (before.read (.scalar .sdCardSaveKey))
  | .scalar .sdCardNcaKey =>
    xtsKeyOr before after (before.read (.scalar .sdCardKekSource))
      (before.read (.scalar .sdCardNcaKeySource)) (before.read (.scalar .sdCardNcaKey))
  | .scalar .saveMacKey =>
    let masterKey : Key := after.read (.entry .masterKey 0)
    let kekSeed : Key := before.read (.scalar .aesKekGenerationSource)
    let kekSource : Key := before.read (.scalar .saveMacKekSource)
    let source : Key := before.read (.scalar .saveMacKeySource)
    if masterKey.isSet ∧ kekSeed.isSet ∧ kekSource.isSet ∧ source.isSet then
      unwrap (unwrap (unwrap masterKey kekSeed) kekSource) source
    else before.read (.scalar .saveMacKey)
  | cell => before.read cell

theorem getD_outcome?_rules (store : Store) (cell : Cell) (former : Block cell.size) :
    (outcome? rules store cell).getD former =
      (commonKeys store cell).getD ((perGenerationKeys store cell).getD
        ((masterKeys store cell).getD ((marikoMasterKeks store cell).getD
          ((signatureMasterKeks store cell).getD ((signatureKeys store cell).getD
            ((keyblobContents store cell).getD ((keyblobs store cell).getD
              ((keyblobCodeKeys store cell).getD
                ((keyblobKeys store cell).getD former))))))))) := by
  simp only [rules, fromKeyblobs, outcome?_cons, Option.getD_or]
  rfl

theorem bind_nonzero? {size : Nat} {α : Type} (block : Block size)
    (next : Block size → Option α) :
    block.nonzero?.bind next = if block.isSet then next block else none := by
  unfold Block.nonzero?
  by_cases set : block.isSet = true
  · simp [set]
  · simp [set]

theorem getD_bind_nonzero? {size : Nat} {α : Type} (block : Block size)
    (next : Block size → Option α) (former : α) :
    (block.nonzero?.bind next).getD former =
      if block.isSet then (next block).getD former else former := by
  rw [bind_nonzero?]
  split
  · rfl
  · rfl

theorem getD_nonzero? (key former : Key) : key.nonzero?.getD former = keyOr key former := by
  unfold Block.nonzero? keyOr
  by_cases set : key.isSet = true
  · simp [set]
  · simp [set]

theorem getD_unwrap (kek source former : Key) :
    (do
      let kek ← kek.nonzero?
      let source ← source.nonzero?
      some (unwrap kek source)).getD former = unwrapOr kek source former := by
  simp only [Option.bind_eq_bind, getD_bind_nonzero?, Option.getD_some, unwrapOr, ite_and]

theorem getD_signatureKey (kek signature former : Key) :
    (do
      let kek ← kek.nonzero?
      let signature ← signature.nonzero?
      some (signatureKey kek signature)).getD former =
      signatureKeyOr kek signature former := by
  simp only [Option.bind_eq_bind, getD_bind_nonzero?, Option.getD_some, signatureKeyOr,
    ite_and]

/-- The store before holds the same as the derived store where derivation only
reads. -/
theorem read_source {before after : Store} (agree : AgreeUpTo 0 after before) (cell : Cell)
    (source : stage cell = 0) : before.read cell = after.read cell :=
  (agree cell (Nat.le_of_eq source)).symm

variable {before after : Store}

theorem getD_keyAreaKey? (agree : AgreeUpTo 0 after before) (generation : Fin 32)
    (source former : Key) :
    (keyAreaKey? after generation source.nonzero?).getD former =
      keyAreaKeyOr before after generation source former := by
  simp only [keyAreaKey?, Store.set?, Option.bind_eq_bind, getD_bind_nonzero?,
    Option.getD_some, generateKek, keyAreaKeyOr, ite_and,
    read_source agree (.scalar .aesKekGenerationSource) rfl,
    read_source agree (.scalar .aesKeyGenerationSource) rfl]

theorem getD_xtsKey (agree : AgreeUpTo 0 after before) (kekSource : Key)
    (source former : XtsKey) :
    (do
      let keySeed ← after.set? (.scalar .aesKeyGenerationSource)
      let kek ← commonKek? after kekSource.nonzero? (some keySeed)
      let source ← source.nonzero?
      some (unwrapXts kek source)).getD former =
      xtsKeyOr before after kekSource source former := by
  simp only [commonKek?, Store.set?, Option.bind_eq_bind, Option.bind_assoc,
    Option.bind_some, getD_bind_nonzero?, Option.getD_some, generateKek, xtsKeyOr, ite_and,
    read_source agree (.scalar .aesKekGenerationSource) rfl,
    read_source agree (.scalar .aesKeyGenerationSource) rfl]
  rfl

theorem openKeyblob?_eq (agree : AgreeUpTo 0 after before) (generation : Fin 6) :
    openKeyblob? after generation =
      if keyblobIsReady before after generation then
        some
          (if keyblobIsIntact before after generation then
            .ok (keyblobPayload before after generation)
          else .error (.keyblobCode generation.val))
      else none := by
  simp only [openKeyblob?, Store.set?, Option.bind_eq_bind, bind_nonzero?,
    EncryptedKeyblob.decrypt, keyblobIsReady, keyblobIsIntact, keyblobPayload,
    Bool.and_eq_true, decide_eq_true_eq, ite_and,
    read_source agree (.entry .encryptedKeyblob generation) rfl]

theorem getD_keyblobs (agree : AgreeUpTo 0 after before) (generation : Fin 6) :
    (keyblobs after (.entry .keyblob generation)).getD
        (before.read (.entry .keyblob generation)) =
      closedForm before after (.entry .keyblob generation) := by
  unfold keyblobs closedForm
  simp only [openKeyblob?_eq agree]
  by_cases ready : keyblobIsReady before after generation = true
  · by_cases intact : keyblobIsIntact before after generation = true
    · simp [ready, intact]
    · simp [ready, intact]
  · simp [ready]

theorem withKeyblob?_early {generation : Fin 32} (early : ¬6 ≤ generation.val) :
    withKeyblob? generation = some (generation.castLT (Nat.not_le.mp early)) :=
  dif_pos (Nat.not_le.mp early)

theorem withKeyblob?_late {generation : Fin 32} (late : 6 ≤ generation.val) :
    withKeyblob? generation = none :=
  dif_neg (Nat.not_lt.mpr late)

theorem withSignature?_early {generation : Fin 32} (early : ¬6 ≤ generation.val) :
    withSignature? generation = none :=
  dif_neg early

theorem withSignature?_late {generation : Fin 32} (late : 6 ≤ generation.val) :
    withSignature? generation = some (generation.subNat 6 late) :=
  dif_pos late

theorem getD_outcome?_package1MacKey (agree : AgreeUpTo 0 after before)
    (generation : Fin 32) :
    (outcome? rules after (.entry .package1MacKey generation)).getD
        (before.read (.entry .package1MacKey generation)) =
      closedForm before after (.entry .package1MacKey generation) := by
  refine (getD_outcome?_rules after (.entry .package1MacKey generation) _).trans ?_
  unfold closedForm
  simp only [read_source agree (.scalar .package1MacKek) rfl]
  by_cases late : 6 ≤ generation.val
  · rw [dif_pos late, read_source agree (.entry .tsecAuthSignature _) rfl,
      ← getD_signatureKey]
    unfold signatureKeys
    simp only [withSignature?_late late, Store.set?, Option.bind_eq_bind, Option.bind_some]
    rfl
  · rw [dif_neg late]
    unfold signatureKeys
    simp only [withSignature?_early late]
    rfl

theorem getD_outcome?_package1Key (agree : AgreeUpTo 0 after before)
    (generation : Fin 32) :
    (outcome? rules after (.entry .package1Key generation)).getD
        (before.read (.entry .package1Key generation)) =
      closedForm before after (.entry .package1Key generation) := by
  refine (getD_outcome?_rules after (.entry .package1Key generation) _).trans ?_
  unfold closedForm
  simp only [read_source agree (.scalar .package1Kek) rfl]
  by_cases late : 6 ≤ generation.val
  · rw [dif_pos late, read_source agree (.entry .tsecAuthSignature _) rfl,
      ← getD_signatureKey]
    unfold signatureKeys keyblobContents
    simp only [withSignature?_late late, withKeyblob?_late late, Store.set?,
      Option.bind_eq_bind, Option.bind_some]
    rfl
  · rw [dif_neg late, ← getD_nonzero?]
    unfold signatureKeys keyblobContents
    simp only [withSignature?_early late, withKeyblob?_early late, Option.bind_eq_bind,
      Option.bind_some]
    rfl

theorem getD_outcome?_masterKek (agree : AgreeUpTo 0 after before)
    (generation : Fin 32) :
    (outcome? rules after (.entry .masterKek generation)).getD
        (before.read (.entry .masterKek generation)) =
      closedForm before after (.entry .masterKek generation) := by
  refine (getD_outcome?_rules after (.entry .masterKek generation) _).trans ?_
  unfold closedForm
  simp only [read_source agree (.scalar .marikoKek) rfl,
    read_source agree (.entry .marikoMasterKekSource generation) rfl,
    read_source agree (.entry .masterKekSource generation) rfl]
  rw [← getD_unwrap]
  by_cases late : 6 ≤ generation.val
  · rw [dif_pos late, ← getD_unwrap]
    unfold signatureMasterKeks keyblobContents
    simp only [withSignature?_late late, withKeyblob?_late late, Store.set?,
      Option.bind_eq_bind, Option.bind_some]
    rfl
  · rw [dif_neg late, ← getD_nonzero?]
    unfold signatureMasterKeks keyblobContents
    simp only [withSignature?_early late, withKeyblob?_early late, Option.bind_eq_bind,
      Option.bind_some]
    rfl

theorem getD_outcome?_scalar (agree : AgreeUpTo 0 after before) (key : Scalar) :
    (outcome? rules after (.scalar key)).getD (before.read (.scalar key)) =
      closedForm before after (.scalar key) := by
  refine (getD_outcome?_rules after (.scalar key) _).trans ?_
  unfold closedForm
  cases key
  case deviceKey =>
    simp only [read_source agree (.scalar .perConsoleKeySource) rfl]
    exact getD_unwrap _ _ _
  case headerKey =>
    simp only [read_source agree (.scalar .headerKekSource) rfl,
      read_source agree (.scalar .headerKeySource) rfl]
    exact getD_xtsKey agree _ _ _
  case sdCardSaveKey =>
    simp only [read_source agree (.scalar .sdCardKekSource) rfl,
      read_source agree (.scalar .sdCardSaveKeySource) rfl]
    exact getD_xtsKey agree _ _ _
  case sdCardNcaKey =>
    simp only [read_source agree (.scalar .sdCardKekSource) rfl,
      read_source agree (.scalar .sdCardNcaKeySource) rfl]
    exact getD_xtsKey agree _ _ _
  case saveMacKey =>
    change (commonKeys after (.scalar .saveMacKey)).getD
      (before.read (.scalar .saveMacKey)) = _
    unfold commonKeys
    simp only [commonKek?, Store.set?, Option.bind_eq_bind, Option.bind_assoc,
      Option.bind_some, getD_bind_nonzero?, Option.getD_some, generateKek, ite_and,
      read_source agree (.scalar .aesKekGenerationSource) rfl,
      read_source agree (.scalar .saveMacKekSource) rfl,
      read_source agree (.scalar .saveMacKeySource) rfl]
    rfl
  all_goals rfl

theorem getD_outcome?_entry (agree : AgreeUpTo 0 after before) (family : Family)
    (generation : Fin family.stop) :
    (outcome? rules after (.entry family generation)).getD
        (before.read (.entry family generation)) =
      closedForm before after (.entry family generation) := by
  cases family
  case package1MacKey => exact getD_outcome?_package1MacKey agree generation
  case package1Key => exact getD_outcome?_package1Key agree generation
  case masterKek => exact getD_outcome?_masterKek agree generation
  all_goals
    refine (getD_outcome?_rules after (.entry _ generation) _).trans ?_
    unfold closedForm
  case keyblobKey =>
    change (keyblobKeys after (.entry .keyblobKey generation)).getD
      (before.read (.entry .keyblobKey generation)) = _
    unfold keyblobKeys
    simp only [Store.set?, Option.bind_eq_bind, getD_bind_nonzero?, Option.getD_some,
      ite_and, read_source agree (.scalar .secureBootKey) rfl,
      read_source agree (.scalar .tsecKey) rfl,
      read_source agree (.entry .keyblobKeySource generation) rfl]
  case keyblobMacKey =>
    simp only [read_source agree (.scalar .keyblobMacKeySource) rfl]
    exact getD_unwrap _ _ _
  case keyblob => exact getD_keyblobs agree generation
  case tsecRootKey =>
    simp only [read_source agree (.scalar .tsecRootKek) rfl,
      read_source agree (.entry .tsecAuthSignature generation) rfl]
    exact getD_signatureKey _ _ _
  case masterKey =>
    change (masterKeys after (.entry .masterKey generation)).getD
      (before.read (.entry .masterKey generation)) = _
    unfold masterKeys
    simp only [Store.set?, Option.bind_eq_bind, getD_bind_nonzero?, Option.getD_some,
      read_source agree (.scalar .masterKeySource) rfl]
    -- This rule looks at the source before the kek.
    rw [unwrapOr, if_congr And.comm rfl rfl, ite_and]
  case keyAreaKeyApplication =>
    simp only [read_source agree (.scalar .keyAreaKeyApplicationSource) rfl]
    exact getD_keyAreaKey? agree _ _ _
  case keyAreaKeyOcean =>
    simp only [read_source agree (.scalar .keyAreaKeyOceanSource) rfl]
    exact getD_keyAreaKey? agree _ _ _
  case keyAreaKeySystem =>
    simp only [read_source agree (.scalar .keyAreaKeySystemSource) rfl]
    exact getD_keyAreaKey? agree _ _ _
  case titlekek =>
    simp only [read_source agree (.scalar .titlekekSource) rfl]
    exact getD_unwrap _ _ _
  case package2Key =>
    simp only [read_source agree (.scalar .package2KeySource) rfl]
    exact getD_unwrap _ _ _
  all_goals rfl

theorem getD_outcome? (agree : AgreeUpTo 0 after before) (cell : Cell) :
    (outcome? rules after cell).getD (before.read cell) = closedForm before after cell := by
  cases cell with
  | scalar key => exact getD_outcome?_scalar agree key
  | entry family generation => exact getD_outcome?_entry agree family generation

end Gamecard.Derivation
