import Gamecard.Key.Keyblob
import Gamecard.Key.Store

/-!
# Deriving keys

Derivation fills every cell whose inputs are set and leaves the others as they
are.  It goes through stages; the rule of a stage says which cells get a value
and which set keys the value is made from.  A later stage sees the results of
the earlier ones and may replace them: the master keks come from the keyblobs
up to generation five, from the TSEC root keys after that, and from the Mariko
sources wherever there is one.
-/

namespace Gamecard

/-- The key inside `source`, which is wrapped with `kek`. -/
def unwrap (kek source : Key) : Key :=
  Aes.decrypt kek source

/-- The key made from a signature by encrypting it. -/
def signatureKey (kek signature : Key) : Key :=
  Aes.encrypt kek signature

/-- The pair of keys inside `source`, each wrapped with `kek`. -/
def unwrapXts (kek : Key) (source : XtsKey) : XtsKey :=
  Block.fit 32 ((unwrap kek (source.slice 0 16)).bytes ++
    (unwrap kek (source.slice 16 16)).bytes)

/-- The key encryption key that `source` gives under a master key.  The last
unwrapping is left out when there is no key seed. -/
def generateKek (source masterKey kekSeed : Key) (keySeed : Option Key) : Key :=
  let kek := unwrap (unwrap masterKey kekSeed) source
  match keySeed with
  | none => kek
  | some seed => unwrap kek seed

namespace Derivation

abbrev keyblobCount : Nat := 6

abbrev generationCount : Nat := 32

def withKeyblob? (generation : Fin generationCount) : Option (Fin keyblobCount) :=
  if before : generation.val < keyblobCount then some ⟨generation.val, before⟩ else none

def withSignature? (generation : Fin generationCount) : Option (Fin 26) :=
  if after : keyblobCount ≤ generation.val then
    some ⟨generation.val - keyblobCount, by
      have bound := generation.isLt
      simp only [generationCount, keyblobCount] at *
      omega⟩
  else none

/-- What a stage puts into the cells. -/
abbrev Rule := Store → (cell : Cell) → Option (Block cell.size)

def keyblobKeys : Rule := fun store cell =>
  match cell with
  | .entry .keyblobKey generation => do
    let boot ← store.set? (.scalar .secureBootKey)
    let tsec ← store.set? (.scalar .tsecKey)
    let source ← store.set? (.entry .keyblobKeySource generation)
    some (unwrap boot (unwrap tsec source))
  | _ => none

/-- The keys of the keyblobs' message codes, and the key of the console. -/
def keyblobCodeKeys : Rule := fun store cell =>
  match cell with
  | .entry .keyblobMacKey generation => do
    let key ← store.set? (.entry .keyblobKey generation)
    let source ← store.set? (.scalar .keyblobMacKeySource)
    some (unwrap key source)
  | .scalar .deviceKey => do
    let key ← store.set? (.entry .keyblobKey ⟨0, by decide⟩)
    let source ← store.set? (.scalar .perConsoleKeySource)
    some (unwrap key source)
  | _ => none

/-- What comes of decrypting a keyblob, if it and its keys are set. -/
def openKeyblob? (store : Store) (generation : Fin keyblobCount) :
    Option (Except Error Keyblob) := do
  let blob ← store.set? (.entry .encryptedKeyblob generation)
  let key ← store.set? (.entry .keyblobKey generation)
  let codeKey ← store.set? (.entry .keyblobMacKey generation)
  some (EncryptedKeyblob.decrypt blob key codeKey generation.val)

def keyblobs : Rule := fun store cell =>
  match cell with
  | .entry .keyblob generation =>
    match openKeyblob? store generation with
    | some (.ok blob) => some blob
    | _ => none
  | _ => none

/-- One warning for each keyblob whose message code is wrong. -/
def keyblobWarnings (store : Store) : Diagnostics :=
  (List.finRange keyblobCount).filterMap fun generation =>
    match openKeyblob? store generation with
    | some (.error error) => some (.keyblobVerification generation.val error)
    | _ => none

def keyblobContents : Rule := fun store cell =>
  match cell with
  | .entry .package1Key generation => do
    let generation ← withKeyblob? generation
    (Keyblob.package1Key (store.read (.entry .keyblob generation))).nonzero?
  | .entry .masterKek generation => do
    let generation ← withKeyblob? generation
    (Keyblob.masterKek (store.read (.entry .keyblob generation))).nonzero?
  | _ => none

def signatureKeys : Rule := fun store cell =>
  match cell with
  | .entry .tsecRootKey place => do
    let kek ← store.set? (.scalar .tsecRootKek)
    let signature ← store.set? (.entry .tsecAuthSignature place)
    some (signatureKey kek signature)
  | .entry .package1MacKey generation => do
    let place ← withSignature? generation
    let kek ← store.set? (.scalar .package1MacKek)
    let signature ← store.set? (.entry .tsecAuthSignature place)
    some (signatureKey kek signature)
  | .entry .package1Key generation => do
    let place ← withSignature? generation
    let kek ← store.set? (.scalar .package1Kek)
    let signature ← store.set? (.entry .tsecAuthSignature place)
    some (signatureKey kek signature)
  | _ => none

def signatureMasterKeks : Rule := fun store cell =>
  match cell with
  | .entry .masterKek generation => do
    let place ← withSignature? generation
    let root ← store.set? (.entry .tsecRootKey place)
    let source ← store.set? (.entry .masterKekSource generation)
    some (unwrap root source)
  | _ => none

def marikoMasterKeks : Rule := fun store cell =>
  match cell with
  | .entry .masterKek generation => do
    let kek ← store.set? (.scalar .marikoKek)
    let source ← store.set? (.entry .marikoMasterKekSource generation)
    some (unwrap kek source)
  | _ => none

def masterKeys : Rule := fun store cell =>
  match cell with
  | .entry .masterKey generation => do
    let source ← store.set? (.scalar .masterKeySource)
    let kek ← store.set? (.entry .masterKek generation)
    some (unwrap kek source)
  | _ => none

def keyAreaKey? (store : Store) (generation : Fin generationCount) (source : Option Key) :
    Option Key := do
  let masterKey ← store.set? (.entry .masterKey generation)
  let kekSeed ← store.set? (.scalar .aesKekGenerationSource)
  let keySeed ← store.set? (.scalar .aesKeyGenerationSource)
  let source ← source
  some (generateKek source masterKey kekSeed (some keySeed))

def perGenerationKeys : Rule := fun store cell =>
  match cell with
  | .entry .keyAreaKeyApplication generation =>
    keyAreaKey? store generation (store.set? (.scalar .keyAreaKeyApplicationSource))
  | .entry .keyAreaKeyOcean generation =>
    keyAreaKey? store generation (store.set? (.scalar .keyAreaKeyOceanSource))
  | .entry .keyAreaKeySystem generation =>
    keyAreaKey? store generation (store.set? (.scalar .keyAreaKeySystemSource))
  | .entry .titlekek generation => do
    let masterKey ← store.set? (.entry .masterKey generation)
    let source ← store.set? (.scalar .titlekekSource)
    some (unwrap masterKey source)
  | .entry .package2Key generation => do
    let masterKey ← store.set? (.entry .masterKey generation)
    let source ← store.set? (.scalar .package2KeySource)
    some (unwrap masterKey source)
  | _ => none

def commonKek? (store : Store) (source keySeed : Option Key) : Option Key := do
  let masterKey ← store.set? (.entry .masterKey ⟨0, by decide⟩)
  let kekSeed ← store.set? (.scalar .aesKekGenerationSource)
  let source ← source
  some (generateKek source masterKey kekSeed keySeed)

def commonKeys : Rule := fun store cell =>
  match cell with
  | .scalar .headerKey => do
    let keySeed ← store.set? (.scalar .aesKeyGenerationSource)
    let kek ← commonKek? store (store.set? (.scalar .headerKekSource)) (some keySeed)
    let source ← store.set? (.scalar .headerKeySource)
    some (unwrapXts kek source)
  | .scalar .sdCardSaveKey => do
    let keySeed ← store.set? (.scalar .aesKeyGenerationSource)
    let kek ← commonKek? store (store.set? (.scalar .sdCardKekSource)) (some keySeed)
    let source ← store.set? (.scalar .sdCardSaveKeySource)
    some (unwrapXts kek source)
  | .scalar .sdCardNcaKey => do
    let keySeed ← store.set? (.scalar .aesKeyGenerationSource)
    let kek ← commonKek? store (store.set? (.scalar .sdCardKekSource)) (some keySeed)
    let source ← store.set? (.scalar .sdCardNcaKeySource)
    some (unwrapXts kek source)
  | .scalar .saveMacKey => do
    let kek ← commonKek? store (store.set? (.scalar .saveMacKekSource)) none
    let source ← store.set? (.scalar .saveMacKeySource)
    some (unwrap kek source)
  | _ => none

/-- The store after the stages before any keyblob is opened. -/
def untilKeyblobs (store : Store) : Store :=
  let store := store.assign (keyblobKeys store)
  store.assign (keyblobCodeKeys store)

def fromKeyblobs : List Rule :=
  [keyblobs, keyblobContents, signatureKeys, signatureMasterKeks, marikoMasterKeks,
    masterKeys, perGenerationKeys, commonKeys]

end Derivation

/-- The store with every key filled in that its set keys give, and a warning
for each keyblob that stays closed. -/
def Store.derive (store : Store) : Store × Diagnostics :=
  let opened := Derivation.untilKeyblobs store
  (Derivation.fromKeyblobs.foldl (fun store rule => store.assign (rule store)) opened,
    Derivation.keyblobWarnings opened)

end Gamecard
