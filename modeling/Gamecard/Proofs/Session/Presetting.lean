import Gamecard.Proofs.Derivation.Idempotence
import Gamecard.Proofs.Key.Slots
import Gamecard.Session

/-!
# Presetting

Presetting derives the keys and then does two things that depend on the derived
store alone: it calls the sink for every master key, in the order of the
generations, and it seeds the header cipher.  The slots of a session are one
sink among others.
-/

namespace Gamecard

namespace Store

def masterKey? (store : Store) (generation : Fin Derivation.generationCount) : Option Key :=
  store.set? (.entry .masterKey generation)

def headerKey? (store : Store) : Option Key :=
  store.set? (.scalar .xciHeaderKey)

theorem getBlock_headerKey (store : Store) :
    getBlock 16 store HeaderCipher.keyName =
      store.headerKey?.elim (.error (.missingKey HeaderCipher.keyName)) .ok := by
  have found : store.get? HeaderCipher.keyName =
      some (store.read (.scalar .xciHeaderKey)).bytes := rfl
  have sized : Block.ofBytes? 16 (store.read (.scalar .xciHeaderKey)).bytes =
      some (store.read (.scalar .xciHeaderKey)) := Block.ofBytes?_bytes _
  simp only [getBlock, found, sized]
  rw [headerKey?, set?]
  cases (store.read (.scalar .xciHeaderKey)).nonzero? <;> rfl

/-- A derived store stays as it is when keys are derived from it. -/
theorem derived_derive (store : Store) : store.derive.1.derive.1 = store.derive.1 := by
  rw [Derivation.derive_eq_run, Derivation.derive_eq_run]
  exact Derivation.stratified_rules.run_run store

theorem warnings_derived (store : Store) : store.derive.1.derive.2 = store.derive.2 := by
  rw [Derivation.warnings_derive, derived_derive, ← Derivation.warnings_derive]

end Store

namespace Session

open SlotTable (install)

/-- The warning about the header cipher when there is no key for it. -/
def cipherWarnings (store : Store) : Diagnostics :=
  store.headerKey?.elim [.headerCipherUnavailable (.missingKey HeaderCipher.keyName)] fun _ => []

theorem seedCipher_eq (session : Session) :
    session.seedCipher =
      ({ session with headerKey := session.store.headerKey?.or session.headerKey },
        cipherWarnings session.store) := by
  rw [seedCipher, Store.getBlock_headerKey, cipherWarnings]
  cases session.store.headerKey? <;> rfl

theorem mem_installations {session : Session} {call : Installation} :
    call ∈ session.installations ↔
      call.isDev = session.isDev ∧ ∃ generation, call.generation = generation.val ∧
        session.store.masterKey? generation = some call.key := by
  simp only [installations, List.mem_filterMap, List.mem_finRange, true_and,
    Option.map_eq_some_iff]
  constructor
  · rintro ⟨generation, key, set, same⟩
    rw [← same]
    exact ⟨rfl, generation, rfl, set⟩
  · rintro ⟨isDev, generation, place, set⟩
    refine ⟨generation, call.key, set, ?_⟩
    rw [← isDev, ← place]

theorem rising_installations (session : Session) :
    SlotTable.Rising session.isDev session.installations where
  ascending := by
    rw [installations, List.pairwise_filterMap]
    refine (List.pairwise_lt_finRange _).imp ?_
    intro earlier later before call called otherCall otherCalled
    obtain ⟨_, _, same⟩ := Option.map_eq_some_iff.mp called
    obtain ⟨_, _, otherSame⟩ := Option.map_eq_some_iff.mp otherCalled
    rw [← same, ← otherSame]
    exact before
  within call member := by
    obtain ⟨_, generation, place, _⟩ := mem_installations.mp member
    rw [place]
    exact generation.isLt
  isDev_eq call member := (mem_installations.mp member).1

/-- The session with derived keys and what became of the header cipher. -/
def seeded (session : Session) : Session :=
  { session with
    store := session.store.derive.1
    headerKey := session.store.derive.1.headerKey?.or session.headerKey }

/-- The calls that a sink gets. -/
def calls (session : Session) : List Installation :=
  installations { session with store := session.store.derive.1 }

def presetWarnings (session : Session) : Diagnostics :=
  session.store.derive.2 ++ cipherWarnings session.store.derive.1

theorem presetWith_of_derive {σ : Type} {session : Session} {store : Store}
    {warnings : Diagnostics} (derived : session.store.derive = (store, warnings))
    (install : σ → Installation → σ) (sink : σ) :
    session.presetWith install sink =
      ({ session with store, headerKey := store.headerKey?.or session.headerKey },
        (installations { session with store }).foldl install sink,
        warnings ++ cipherWarnings store) := by
  rw [presetWith, derive, derived]
  simp only [seedCipher_eq]

/-- Any sink gets the same calls, and nothing else depends on it. -/
theorem presetWith_eq {σ : Type} (session : Session) (install : σ → Installation → σ)
    (sink : σ) :
    session.presetWith install sink =
      (session.seeded, session.calls.foldl install sink, session.presetWarnings) := by
  rw [seeded, calls, presetWarnings]
  apply presetWith_of_derive
  exact (Prod.eta _).symm

theorem preset_eq (session : Session) :
    session.preset =
      ({ session.seeded with slots := session.calls.foldl install session.slots },
        session.presetWarnings) := by
  rw [preset, presetWith_eq]

theorem store_preset (session : Session) :
    session.preset.1.store = session.store.derive.1 := by
  rw [preset_eq, seeded]

theorem headerKey_preset (session : Session) :
    session.preset.1.headerKey = session.store.derive.1.headerKey?.or session.headerKey := by
  rw [preset_eq, seeded]

theorem slots_preset (session : Session) :
    session.preset.1.slots = session.calls.foldl install session.slots := by
  rw [preset_eq]

theorem warnings_preset (session : Session) :
    session.preset.2 = session.presetWarnings := by
  rw [preset_eq]

theorem rising_calls (session : Session) : SlotTable.Rising session.isDev session.calls :=
  rising_installations { session with store := session.store.derive.1 }

theorem mem_calls {session : Session} {call : Installation} :
    call ∈ session.calls ↔
      call.isDev = session.isDev ∧ ∃ generation, call.generation = generation.val ∧
        session.store.derive.1.masterKey? generation = some call.key :=
  mem_installations

/-- A sink that keeps the calls it gets, in order. -/
def record (calls : List Installation) (call : Installation) : List Installation :=
  calls ++ [call]

theorem foldl_record (calls later : List Installation) :
    later.foldl record calls = calls ++ later := by
  induction later generalizing calls with
  | nil => exact (List.append_nil calls).symm
  | cons call rest induction =>
      rw [List.foldl_cons, induction, record, List.append_assoc]
      rfl

theorem calls_preset (session : Session) : session.preset.1.calls = session.calls := by
  rw [preset_eq]
  simp only [calls, seeded, Store.derived_derive, installations]

theorem seeded_eq_self {session : Session} (derived : session.store.derive.1 = session.store)
    (sought : session.store.headerKey?.or session.headerKey = session.headerKey) :
    session.seeded = session := by
  rw [seeded, derived, sought]

theorem preset_eq_self {session : Session} (seeded : session.seeded = session)
    (filled : session.calls.foldl install session.slots = session.slots) :
    session.preset.1 = session := by
  rw [preset_eq, seeded, filled]

/-- Presetting again finds the same keys, so it makes the same calls and leaves the
same header key. -/
theorem preset_preset (session : Session) : session.preset.1.preset = session.preset := by
  have kept : session.preset.1.seeded = session.preset.1 := by
    apply seeded_eq_self
    · rw [store_preset, Store.derived_derive]
    · rw [store_preset, headerKey_preset, ← Option.or_assoc, Option.or_self]
  have filled : session.preset.1.calls.foldl install session.preset.1.slots =
      session.preset.1.slots := by
    rw [calls_preset, slots_preset, (rising_calls session).foldl_foldl]
  apply Prod.ext
  · exact preset_eq_self kept filled
  · rw [warnings_preset, warnings_preset, presetWarnings, presetWarnings, store_preset,
      Store.warnings_derived, Store.derived_derive]

/-- One call for each master key that is set, in the order of the generations. -/
structure CallsEach (store : Store) (isDev : Bool) (calls : List Installation) : Prop where
  ascending : calls.Pairwise fun earlier later => earlier.generation < later.generation
  mem_iff : ∀ call, call ∈ calls ↔
    call.isDev = isDev ∧ ∃ generation, call.generation = generation.val ∧
      store.masterKey? generation = some call.key

/-- Presetting into the slots of a session is presetting with a sink that keeps the
calls, and then making these calls on the slots.  Any other sink gets them too, and
presetting a second time makes no difference. -/
theorem preset_replays (session : Session) :
    ∃ calls seeded warnings, session.presetWith record [] = (seeded, calls, warnings) ∧
      seeded.store = session.store.derive.1 ∧ CallsEach seeded.store session.isDev calls ∧
      session.preset =
        ({ seeded with slots := calls.foldl install session.slots }, warnings) ∧
      (∀ call ∈ calls, session.preset.1.slots.get? call.generation = some call.key) ∧
      (∀ generation, (∀ call ∈ calls, call.generation ≠ generation) →
        session.preset.1.slots.get? generation = session.slots.get? generation) ∧
      (∀ {σ : Type} (install : σ → Installation → σ) (sink : σ),
        session.presetWith install sink = (seeded, calls.foldl install sink, warnings)) ∧
      session.preset.1.preset = session.preset := by
  have rising := session.rising_calls
  refine ⟨session.calls, session.seeded, session.presetWarnings, ?_, rfl, ?_, session.preset_eq,
    ?_, ?_, session.presetWith_eq, session.preset_preset⟩
  · rw [presetWith_eq, foldl_record, List.nil_append]
  · exact ⟨rising.ascending, fun _ => mem_calls⟩
  · intro call member
    rw [slots_preset]
    exact rising.get?_of_mem session.slots member
  · intro generation others
    rw [slots_preset]
    exact rising.get?_of_forall_ne session.slots others

end Session

end Gamecard
