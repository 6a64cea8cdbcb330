import Gamecard.Proofs.Card.Opening
import Mathlib.Data.List.Basic

/-!
# Headers that stay encrypted

Whatever a header cipher leaves behind when it fails is thrown away.  A card
opens as with the cipher that succeeds there without touching the header, and
the only trace is one warning for each header that stays encrypted.
-/

namespace Gamecard

namespace HeaderCipher

/-- The cipher that leaves a header alone, and succeeds, where this one fails. -/
def orUnchanged (cipher : HeaderCipher) : HeaderCipher := fun header =>
  match cipher header with
  | (decrypted, .ok ()) => (decrypted, .ok ())
  | (_, .error _) => (header, .ok ())

def failure? (cipher : HeaderCipher) (header : Header) : Option Error :=
  match (cipher header).2 with
  | .ok () => none
  | .error error => some error

theorem failure?_orUnchanged (cipher : HeaderCipher) (header : Header) :
    cipher.orUnchanged.failure? header = none := by
  unfold failure? orUnchanged
  rcases cipher header with ⟨decrypted, error | done⟩
  · rfl
  · rfl

theorem orUnchanged_orUnchanged (cipher : HeaderCipher) :
    cipher.orUnchanged.orUnchanged = cipher.orUnchanged := by
  funext header
  rcases outcome : cipher header with ⟨decrypted, error | done⟩
  · simp only [orUnchanged, outcome]
  · simp only [orUnchanged, outcome]

end HeaderCipher

namespace Access

variable {ε α β : Type}

/-- An operation reads what another one reads, and ends as it does but for a change
of its value. -/
structure Mirrors (change : β → β) (access other : Access ε β) : Prop where
  result_eq : access.result = other.result.map change
  reads_eq : access.reads = other.reads

theorem mirrors_pure {change : β → β} {value other : β} (changed : value = change other) :
    Mirrors change (pure value : Access ε β) (pure other) := by
  constructor
  · rw [changed]
    rfl
  · rfl

/-- Operations that begin alike mirror each other if what follows does. -/
theorem Mirrors.bind {change : β → β} (first : Access ε α) {next other : α → Access ε β}
    (each : ∀ value, (next value).Mirrors change (other value)) :
    (first >>= next).Mirrors change (first >>= other) := by
  constructor
  · rw [result_bind, result_bind]
    cases first.result with
    | error error => rfl
    | ok value => exact (each value).result_eq
  · rw [reads_bind, reads_bind]
    cases first.result with
    | error error => rfl
    | ok value => exact congrArg (first.reads ++ ·) (each value).reads_eq

end Access

namespace Card

/-- All that a failing cipher leaves behind is its error, as a warning. -/
theorem decryptHeader_eq (cipher : HeaderCipher) (header : Header) :
    decryptHeader cipher header = ((cipher.orUnchanged header).1,
      (cipher.failure? header).toList.map .headerNotDecrypted) := by
  unfold decryptHeader HeaderCipher.orUnchanged HeaderCipher.failure?
  rcases cipher header with ⟨decrypted, error | done⟩
  · rfl
  · rfl

theorem decryptHeader_orUnchanged (cipher : HeaderCipher) (header : Header) :
    decryptHeader cipher.orUnchanged header = ((cipher.orUnchanged header).1, []) := by
  rw [decryptHeader_eq, HeaderCipher.failure?_orUnchanged, HeaderCipher.orUnchanged_orUnchanged]
  rfl

/-- The headers of a card, as they are stored. -/
def storedHeaders (card : Card) : List Header :=
  card.header :: (card.secondHeader.map SecondHeader.header).toList

/-- Why headers of a card stay encrypted. -/
def failures (cipher : HeaderCipher) (card : Card) : List Error :=
  card.storedHeaders.filterMap cipher.failure?

/-- The card with a warning in front for each header that stays encrypted. -/
def reportFailures (cipher : HeaderCipher) (card : Card) : Card :=
  { card with
    diagnostics := (failures cipher card).map .headerNotDecrypted ++ card.diagnostics }

theorem headerWarnings_eq_failures (cipher : HeaderCipher) (card : Card) :
    headerWarnings cipher card = (failures cipher card).map .headerNotDecrypted := by
  rw [headerWarnings, failures, storedHeaders, List.filterMap_eq_flatMap_toList,
    List.flatMap_cons, List.map_append, decryptHeader_eq]
  cases card.secondHeader with
  | none => rfl
  | some second =>
      simp only [Option.elim_some, Option.map_some, Option.toList_some, List.flatMap_singleton,
        decryptHeader_eq]

theorem failures_orUnchanged (cipher : HeaderCipher) (card : Card) :
    failures cipher.orUnchanged card = [] := by
  apply List.filterMap_eq_nil_iff.mpr
  intro header _
  exact cipher.failure?_orUnchanged header

theorem mirrors_ofImage (storage : Storage) (cipher : HeaderCipher) :
    (ofImage storage cipher).Mirrors (reportFailures cipher)
      (ofImage storage cipher.orUnchanged) := by
  unfold ofImage
  refine Access.Mirrors.bind _ fun parts => ?_
  refine Access.Mirrors.bind _ fun initialData => ?_
  refine Access.Mirrors.bind _ fun bytes => ?_
  -- From here on both runs work with the same headers, and differ in the warnings only.
  simp only [readSecondHeader, decryptHeader_eq cipher, decryptHeader_orUnchanged]
  refine Access.Mirrors.bind _ fun certificate => ?_
  refine Access.Mirrors.bind _ fun rootMounted => ?_
  refine Access.Mirrors.bind _ fun gathered => ?_
  apply Access.mirrors_pure
  rw [reportFailures, ← headerWarnings_eq_failures]
  by_cases second : Header.flags (Block.fit 0x200 bytes) |>.hasSecondHeader
  · simp only [if_pos second, headerWarnings, decryptHeader_eq cipher, Option.elim_some,
      List.nil_append, List.append_assoc]
  · simp only [if_neg second, headerWarnings, decryptHeader_eq cipher, Option.elim_none,
      List.nil_append, List.append_nil, List.append_assoc]

/-- There are as many stored headers as the flags of the first one say. -/
theorem Assembled.length_storedHeaders {storage : Storage} {cipher : HeaderCipher} {card : Card}
    (assembled : Assembled storage cipher card) :
    card.storedHeaders.length = if card.header.flags.hasSecondHeader then 2 else 1 := by
  rw [← assembled.isSome_secondHeader, storedHeaders]
  cases card.secondHeader with
  | none => rfl
  | some second => rfl

theorem Assembled.headerNotDecrypted_notMem {storage : Storage} {cipher : HeaderCipher}
    {card : Card} (assembled : Assembled storage cipher.orUnchanged card) (error : Error) :
    .headerNotDecrypted error ∉ card.diagnostics := by
  intro member
  rcases assembled.mem_diagnostics member with header | partition
  · rw [headerWarnings_eq_failures, failures_orUnchanged] at header
    cases header
  · cases partition

/-- A card opens with a cipher that fails on some headers as it opens when these
headers are left alone: with the same error, or with the same parts, and one
warning more for each stored header that stays encrypted. -/
theorem ofImage_orUnchanged (storage : Storage) (cipher : HeaderCipher) :
    (ofImage storage cipher).result =
        (ofImage storage cipher.orUnchanged).result.map (reportFailures cipher) ∧
      (ofImage storage cipher).reads = (ofImage storage cipher.orUnchanged).reads ∧
      ∀ card, (ofImage storage cipher.orUnchanged).result = .ok card →
        (∀ error, .headerNotDecrypted error ∉ card.diagnostics) ∧
          (failures cipher card).length ≤
            if card.header.flags.hasSecondHeader then 2 else 1 := by
  have mirrors := mirrors_ofImage storage cipher
  refine ⟨mirrors.result_eq, mirrors.reads_eq, ?_⟩
  intro card opened
  have assembled := assembled_of_ofImage opened
  constructor
  · exact assembled.headerNotDecrypted_notMem
  · rw [← assembled.length_storedHeaders]
    exact List.length_filterMap_le _ _

end Card

end Gamecard
