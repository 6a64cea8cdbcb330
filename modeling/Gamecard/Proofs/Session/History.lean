import Gamecard.Proofs.Key.Reachable
import Gamecard.Proofs.Session.Presetting
import Mathlib.Data.List.Induction

/-!
# What a session remembers

A run of a session takes any steps in any order.  Whatever becomes of the keys on
the way, the slots and the header cipher hold what the last preset found that
found a key for them.
-/

namespace Gamecard

universe u

/-- The value of the last step that has one, each step being looked at together with
the steps before it. -/
inductive LastFound {ι : Type u} {α : Type} (found : List ι → ι → Option α) (steps : List ι) :
    Option α → Prop where
  | never : (∀ before step after, steps = before ++ step :: after → found before step = none) →
      LastFound found steps none
  | last {before : List ι} {step : ι} {after : List ι} {value : α} :
      steps = before ++ step :: after → found before step = some value →
      (∀ middle later rest, after = middle ++ later :: rest →
        found (before ++ step :: middle) later = none) →
      LastFound found steps (some value)

namespace LastFound

variable {ι : Type u} {α : Type} {found : List ι → ι → Option α} {steps : List ι}

theorem split_append_singleton {final step : ι} {before after : List ι}
    (split : steps ++ [final] = before ++ step :: after) :
    (after = [] ∧ before = steps ∧ step = final) ∨
      ∃ front, after = front ++ [final] ∧ steps = before ++ step :: front := by
  rcases List.eq_nil_or_concat' after with empty | ⟨front, other, same⟩
  · rw [empty] at split
    obtain ⟨whole, single⟩ := List.append_inj' split rfl
    cases single
    exact .inl ⟨empty, whole.symm, rfl⟩
  · rw [same, ← List.cons_append, ← List.append_assoc] at split
    obtain ⟨whole, single⟩ := List.append_inj' split rfl
    cases single
    exact .inr ⟨front, same, whole⟩

theorem nil : LastFound found [] none := by
  refine .never ?_
  intro before step after split
  exact absurd split.symm (List.append_ne_nil_of_right_ne_nil before (List.cons_ne_nil step after))

/-- One more step counts if it has a value, and otherwise nothing changes. -/
theorem append_step {value : Option α} (lastFound : LastFound found steps value) (step : ι) :
    LastFound found (steps ++ [step]) ((found steps step).or value) := by
  cases here : found steps step with
  | some fresh =>
      refine .last rfl here ?_
      intro middle later rest split
      exact absurd split.symm
        (List.append_ne_nil_of_right_ne_nil middle (List.cons_ne_nil later rest))
  | none =>
      cases lastFound with
      | never nowhere =>
          refine .never ?_
          intro before other after split
          rcases split_append_singleton split with ⟨_, all, same⟩ | ⟨front, _, earlier⟩
          · rw [all, same]
            exact here
          · exact nowhere before other front earlier
      | @last before place after value split foundHere nowhere =>
          have longer : steps ++ [step] = before ++ place :: (after ++ [step]) := by
            rw [split, List.append_assoc, List.cons_append]
          refine .last longer foundHere ?_
          intro middle later rest behind
          rcases split_append_singleton behind with ⟨_, all, same⟩ | ⟨front, _, earlier⟩
          · rw [all, same, ← split]
            exact here
          · exact nowhere middle later front earlier

/-- What holds of every value that is found holds of the last one. -/
theorem of_forall {property : α → Prop}
    (each : ∀ before step value, found before step = some value → property value)
    {value : α} (lastFound : LastFound found steps (some value)) : property value := by
  cases lastFound with
  | last _ found _ => exact each _ _ _ found

end LastFound

theorem Block.ne_zero_of_nonzero? {size : Nat} {block result : Block size}
    (set : block.nonzero? = some result) : result ≠ Block.zero size := by
  intro zero
  have unset : (Block.zero size).isSet = false := by
    simp [isSet, Block.zero, Bytes.isZero, Bytes.zeros]
  obtain ⟨isSet, same⟩ := nonzero?_eq_some_iff.mp set
  rw [← same, zero, unset] at isSet
  cases isSet

theorem Store.ne_zero_of_masterKey? {store : Store} {generation : Fin Derivation.generationCount}
    {key : Key} (found : store.masterKey? generation = some key) : key ≠ Block.zero 16 :=
  Block.ne_zero_of_nonzero? found

theorem Store.ne_zero_of_headerKey? {store : Store} {key : Key}
    (found : store.headerKey? = some key) : key ≠ Block.zero 16 :=
  Block.ne_zero_of_nonzero? found

namespace SlotTable

/-- A table that holds keys is marked as the session is, and an empty one is not
marked. -/
structure Marked (isDev : Bool) (slots : SlotTable) : Prop where
  filled : ∀ generation key, slots.get? generation = some key → slots.isDev = isDev
  vacant : (∀ generation, slots.get? generation = none) → slots.isDev = false

theorem marked_empty (isDev : Bool) : empty.Marked isDev where
  filled generation key present := by
    rw [get?_empty] at present
    cases present
  vacant _ := rfl

theorem Marked.foldl {isDev : Bool} {slots : SlotTable} (marked : slots.Marked isDev)
    {calls : List Installation} (rising : Rising isDev calls) :
    (calls.foldl install slots).Marked isDev := by
  cases calls with
  | nil => exact marked
  | cons call rest =>
      have mark := rising.isDev_foldl slots
      rw [if_neg (List.cons_ne_nil call rest)] at mark
      constructor
      · intro _ _ _
        exact mark
      · intro vacant
        have filled := rising.get?_of_mem slots List.mem_cons_self
        rw [vacant] at filled
        cases filled

end SlotTable

namespace Session

/-- The master key that a step finds for a slot of the session. -/
def foundMasterKey? (session : Session) (generation : Fin Derivation.generationCount) :
    Operation → Option Key
  | .preset => session.store.derive.1.masterKey? generation
  | _ => none

/-- The header key that a step finds. -/
def foundHeaderKey? (session : Session) : Operation → Option Key
  | .preset => session.store.derive.1.headerKey?
  | .presetWith _ _ => session.store.derive.1.headerKey?
  | _ => none

/-- The session that follows on one in which these keys are found. -/
structure Advances (session : Session)
    (masterKey? : Fin Derivation.generationCount → Option Key) (headerKey? : Option Key)
    (next : Session) : Prop where
  isDev_eq : next.isDev = session.isDev
  get?_slots : ∀ generation, next.slots.get? generation.val =
    (masterKey? generation).or (session.slots.get? generation.val)
  headerKey_eq : next.headerKey = headerKey?.or session.headerKey
  marked : session.slots.Marked session.isDev → next.slots.Marked session.isDev

variable {session : Session}

theorem get?_preset (session : Session) (generation : Fin Derivation.generationCount) :
    session.preset.1.slots.get? generation.val =
      (session.store.derive.1.masterKey? generation).or (session.slots.get? generation.val) := by
  have rising := session.rising_calls
  rw [slots_preset]
  cases found : session.store.derive.1.masterKey? generation with
  | none =>
      rw [Option.none_or]
      refine rising.get?_of_forall_ne session.slots ?_
      intro call member same
      obtain ⟨_, other, place, set⟩ := mem_calls.mp member
      rw [Fin.ext (place.symm.trans same), found] at set
      cases set
  | some key =>
      have member : ⟨key, generation.val, session.isDev⟩ ∈ session.calls :=
        mem_calls.mpr ⟨rfl, generation, rfl, found⟩
      rw [Option.some_or]
      exact rising.get?_of_mem session.slots member

theorem advances_preset (session : Session) :
    session.Advances session.store.derive.1.masterKey? session.store.derive.1.headerKey?
      session.preset.1 where
  isDev_eq := by rw [preset_eq, seeded]
  get?_slots := session.get?_preset
  headerKey_eq := by rw [preset_eq, seeded]
  marked marked := by
    rw [slots_preset]
    exact marked.foldl session.rising_calls

theorem advances_seeded (session : Session) :
    session.Advances (fun _ => none) session.store.derive.1.headerKey? session.seeded where
  isDev_eq := by rw [seeded]
  get?_slots _ := by rw [seeded, Option.none_or]
  headerKey_eq := by rw [seeded]
  marked marked := by
    rw [seeded]
    exact marked

/-- Only presets find keys, and only they change what the session remembers. -/
theorem advances_apply (session : Session) (operation : Operation) :
    session.Advances (session.foundMasterKey? · operation) (session.foundHeaderKey? operation)
      (session.apply operation) := by
  cases operation with
  | keys operation => exact ⟨rfl, fun _ => rfl, rfl, id⟩
  | loadKeys files world environment path => exact ⟨rfl, fun _ => rfl, rfl, id⟩
  | loadTitleKeys files world environment path => exact ⟨rfl, fun _ => rfl, rfl, id⟩
  | preset => exact session.advances_preset
  | presetWith install sink =>
      rw [apply, presetWith_eq]
      exact session.advances_seeded

/-- The slots and the header cipher hold what was found last. -/
structure Remembers (isDev : Bool) (operations : List Operation) (session : Session) : Prop where
  isDev_eq : session.isDev = isDev
  slots : ∀ generation, LastFound (fun before => (reached isDev before).foundMasterKey? generation)
    operations (session.slots.get? generation.val)
  headerKey : LastFound (fun before => (reached isDev before).foundHeaderKey?) operations
    session.headerKey
  marked : session.slots.Marked isDev

theorem remembers_reached (isDev : Bool) (operations : List Operation) :
    Remembers isDev operations (reached isDev operations) := by
  induction operations using List.reverseRecOn with
  | nil =>
      refine ⟨rfl, ?_, .nil, SlotTable.marked_empty isDev⟩
      intro generation
      change LastFound _ [] (SlotTable.empty.get? generation.val)
      rw [SlotTable.get?_empty]
      exact .nil
  | append_singleton operations operation remembers =>
      have step := (reached isDev operations).advances_apply operation
      have next : reached isDev (operations ++ [operation]) =
          (reached isDev operations).apply operation := by
        rw [reached, List.foldl_append]
        rfl
      rw [next]
      refine ⟨step.isDev_eq.trans remembers.isDev_eq, ?_, ?_, ?_⟩
      · intro generation
        rw [step.get?_slots]
        exact (remembers.slots generation).append_step operation
      · rw [step.headerKey_eq]
        exact remembers.headerKey.append_step operation
      · have marked := step.marked
        rw [remembers.isDev_eq] at marked
        exact marked remembers.marked

theorem ne_zero_of_foundMasterKey? {generation : Fin Derivation.generationCount}
    {operation : Operation} {key : Key}
    (found : session.foundMasterKey? generation operation = some key) : key ≠ Block.zero 16 := by
  cases operation with
  | preset => exact Store.ne_zero_of_masterKey? found
  | _ => cases found

theorem ne_zero_of_foundHeaderKey? {operation : Operation} {key : Key}
    (found : session.foundHeaderKey? operation = some key) : key ≠ Block.zero 16 := by
  cases operation with
  | preset => exact Store.ne_zero_of_headerKey? found
  | presetWith install sink => exact Store.ne_zero_of_headerKey? found
  | _ => cases found

/-- What a preset does with the header cipher, and its warnings. -/
inductive SeedsCipher (session next : Session) : Diagnostics → Prop where
  | seeded {key : Key} : session.store.derive.1.headerKey? = some key →
      next.headerKey = some key → SeedsCipher session next session.store.derive.2
  | unavailable : session.store.derive.1.headerKey? = none →
      next.headerKey = session.headerKey →
      SeedsCipher session next (session.store.derive.2 ++
        [.headerCipherUnavailable (.missingKey HeaderCipher.keyName)])

theorem seedsCipher_of_headerKey_eq {next : Session}
    (headerKey : next.headerKey = session.store.derive.1.headerKey?.or session.headerKey) :
    SeedsCipher session next session.presetWarnings := by
  rw [presetWarnings, cipherWarnings]
  cases found : session.store.derive.1.headerKey? with
  | none =>
      rw [found, Option.none_or] at headerKey
      exact .unavailable found headerKey
  | some key =>
      rw [found, Option.some_or] at headerKey
      rw [Option.elim_some, List.append_nil]
      exact .seeded found headerKey

theorem headerCipherUnavailable_notMem (store : Store) (error : Error) :
    .headerCipherUnavailable error ∉ store.derive.2 := by
  rw [Derivation.warnings_derive, Derivation.keyblobWarnings, List.mem_filterMap]
  rintro ⟨generation, _, warning⟩
  split at warning
  · cases warning
  · cases warning

/-- However the keys of a session come and go: each slot and the header cipher hold
what the last preset found that found something for them, the slots are marked as
the session is, and the next preset either seeds the cipher or adds one warning. -/
theorem reached_remembers (isDev : Bool) (operations : List Operation) :
    Remembers isDev operations (reached isDev operations) ∧
      (∀ (generation : Fin Derivation.generationCount) key,
        (reached isDev operations).slots.get? generation.val = some key → key ≠ Block.zero 16) ∧
      (∀ key, (reached isDev operations).headerKey = some key → key ≠ Block.zero 16) ∧
      (∀ error, .headerCipherUnavailable error ∉ (reached isDev operations).store.derive.2) ∧
      SeedsCipher (reached isDev operations) (reached isDev operations).preset.1
        (reached isDev operations).preset.2 ∧
      ∀ {σ : Type} (install : σ → Installation → σ) (sink : σ),
        ((reached isDev operations).presetWith install sink).1.slots =
            (reached isDev operations).slots ∧
          SeedsCipher (reached isDev operations)
            ((reached isDev operations).presetWith install sink).1
            ((reached isDev operations).presetWith install sink).2.2 := by
  have remembers := remembers_reached isDev operations
  generalize reached isDev operations = session at remembers ⊢
  refine ⟨remembers, ?_, ?_, headerCipherUnavailable_notMem session.store, ?_, ?_⟩
  · intro generation key holds
    have last := remembers.slots generation
    rw [holds] at last
    exact last.of_forall fun _ _ _ found => ne_zero_of_foundMasterKey? found
  · intro key holds
    have last := remembers.headerKey
    rw [holds] at last
    exact last.of_forall fun _ _ _ found => ne_zero_of_foundHeaderKey? found
  · have advances := session.advances_preset
    rw [preset_eq] at advances ⊢
    exact seedsCipher_of_headerKey_eq advances.headerKey_eq
  · intro σ install sink
    rw [presetWith_eq]
    exact ⟨by rw [seeded], seedsCipher_of_headerKey_eq session.advances_seeded.headerKey_eq⟩

end Session

end Gamecard
