import Gamecard.Proofs.Key.Reachable
import Gamecard.Proofs.Key.Spelling
import Gamecard.Proofs.Sequence
import Gamecard.Proofs.Text.HexReading

/-!
# What pairs of texts leave in the store

A pair gives a value for the key that it names, in whatever case of letters, if the
value consists of digits for whole bytes.  Any other pair is refused and leaves the
store alone.  After a list of pairs every key has the value of the last pair that
gives one, and the warnings tell in the order of the pairs which of them were refused
and which had a value of another size than the key.
-/

namespace Gamecard

/-- The text consists of digits for whole bytes. -/
structure Hex.SpellsBytes (text : String) : Prop where
  even : (Utf8.encode text).length % 2 = 0
  digits : ∀ character ∈ text.toList, Hex.isDigit character = true

theorem Hex.SpellsBytes.isHexText {text : String} (spells : Hex.SpellsBytes text) :
    Hex.isHexText text = true :=
  (Hex.isHexText_iff text).mpr spells.digits

instance (text : String) : Decidable (Hex.SpellsBytes text) :=
  decidable_of_iff ((Utf8.encode text).length % 2 = 0 ∧ Hex.isHexText text = true)
    ⟨fun both => ⟨both.1, (Hex.isHexText_iff text).mp both.2⟩,
      fun spells => ⟨spells.even, spells.isHexText⟩⟩

theorem Hex.spellsBytes_of_isNumber {size : Nat} {text : String}
    (number : Hex.IsNumber (2 * size) text) : Hex.SpellsBytes text where
  even := by
    rw [(Hex.isNumber_iff.mp number).1]
    omega
  digits := number.2

namespace Store

/-- The pair has a value for the key of this name. -/
structure Gives (name : KeyName) (pair : String × String) : Prop where
  named : pair.1.map Char.toLower = name.text
  spells : Hex.SpellsBytes pair.2

instance (name : KeyName) (pair : String × String) : Decidable (Gives name pair) :=
  decidable_of_iff (pair.1.map Char.toLower = name.text ∧ Hex.SpellsBytes pair.2)
    ⟨fun both => ⟨both.1, both.2⟩, fun gives => ⟨gives.named, gives.spells⟩⟩

/-- Why a pair is refused, by the first test that it does not pass. -/
inductive Refusal (pair : String × String) : Warning → Prop where
  | oddLength : (Utf8.encode pair.2).length % 2 ≠ 0 →
      Refusal pair (.oddLengthValue (pair.1.map Char.toLower))
  | nonHex : (Utf8.encode pair.2).length % 2 = 0 →
      (∃ character ∈ pair.2.toList, Hex.isDigit character = false) →
      Refusal pair (.nonHexValue (pair.1.map Char.toLower))
  | unknown : Hex.SpellsBytes pair.2 →
      (∀ name : KeyName, name.isKnown = true → pair.1.map Char.toLower ≠ name.text) →
      Refusal pair (.unknownKey (pair.1.map Char.toLower) pair.2)

/-- What there is to say about a pair. -/
inductive Complaint (pair : String × String) : Warning → Prop where
  | refused {warning : Warning} : Refusal pair warning → Complaint pair warning
  | lengthMismatch {name : KeyName} {cell : Cell} : Gives name pair →
      name.cell? = some cell → (Utf8.encode pair.2).length ≠ 2 * cell.size →
      Complaint pair (.keyLengthMismatch (pair.1.map Char.toLower)
        ((Utf8.encode pair.2).length / 2) cell.size)

/-- The pair names a key and has as many digits as the key takes. -/
def Fits (pair : String × String) : Prop :=
  ∃ (name : KeyName) (cell : Cell), name.cell? = some cell ∧
    pair.1.map Char.toLower = name.text ∧ Hex.IsNumber (2 * cell.size) pair.2

variable {name : KeyName} {cell : Cell} {pair : String × String} {warning : Warning}

theorem Gives.ingest_eq (gives : Gives name pair) (found : name.cell? = some cell)
    (store : Store) :
    store.ingest pair.1 pair.2 =
      (store.write cell (Hex.decodeText cell.size pair.2),
        if (Utf8.encode pair.2).length ≠ 2 * cell.size then
          some (.keyLengthMismatch (pair.1.map Char.toLower)
            ((Utf8.encode pair.2).length / 2) cell.size)
        else none) := by
  have reached : (KeyName.read? (pair.1.map Char.toLower)).bind KeyName.cell? = some cell := by
    rw [gives.named, KeyName.read?_text (KeyName.isKnown_of_cell? found), Option.bind_some,
      found]
  simp only [ingest, gives.spells.even, gives.spells.isHexText, reached, ne_eq,
    not_true_eq_false, Bool.not_true, Bool.false_eq_true, if_false]

theorem Refusal.ingest_eq (refusal : Refusal pair warning) (store : Store) :
    store.ingest pair.1 pair.2 = (store, some warning) := by
  cases refusal with
  | oddLength odd => exact if_pos odd
  | nonHex even exception =>
      have mixed := Hex.isHexText_eq_false exception
      simp only [ingest, even, mixed, ne_eq, not_true_eq_false, Bool.not_false, if_false,
        if_true]
  | unknown spells unnamed =>
      have missing : KeyName.read? (pair.1.map Char.toLower) = none := by
        cases read : KeyName.read? (pair.1.map Char.toLower) with
        | none => rfl
        | some name =>
            obtain ⟨known, same⟩ := KeyName.of_read? read
            exact absurd same (unnamed name known)
      simp only [ingest, spells.even, spells.isHexText, missing, ne_eq, not_true_eq_false,
        Bool.not_true, Bool.false_eq_true, if_false, Option.bind_none]

/-- A pair is refused, or it gives a value for a key that has a cell. -/
theorem refusal_or_gives (pair : String × String) :
    (∃ warning, Refusal pair warning) ∨
      ∃ name cell, Gives name pair ∧ name.cell? = some cell := by
  by_cases odd : (Utf8.encode pair.2).length % 2 ≠ 0
  · exact .inl ⟨_, .oddLength odd⟩
  · have even := not_not.mp odd
    by_cases digits : ∀ character ∈ pair.2.toList, Hex.isDigit character = true
    · have spells : Hex.SpellsBytes pair.2 := ⟨even, digits⟩
      by_cases named : ∃ name : KeyName,
          name.isKnown = true ∧ pair.1.map Char.toLower = name.text
      · obtain ⟨name, known, same⟩ := named
        rw [← KeyName.isSome_cell?] at known
        obtain ⟨cell, found⟩ := Option.isSome_iff_exists.mp known
        exact .inr ⟨name, cell, ⟨same, spells⟩, found⟩
      · refine .inl ⟨_, .unknown spells ?_⟩
        intro name known same
        exact named ⟨name, known, same⟩
    · refine .inl ⟨_, .nonHex even ?_⟩
      simpa using digits

/-- The warning for a pair does not depend on the store. -/
theorem ingest_warning_iff (store : Store) (pair : String × String) (warning : Warning) :
    (store.ingest pair.1 pair.2).2 = some warning ↔ Complaint pair warning := by
  constructor
  · intro warned
    rcases refusal_or_gives pair with ⟨other, refusal⟩ | ⟨name, cell, gives, found⟩
    · rw [refusal.ingest_eq] at warned
      cases warned
      exact .refused refusal
    · rw [gives.ingest_eq found] at warned
      dsimp only at warned
      split at warned
      next long =>
        cases warned
        exact .lengthMismatch gives found long
      next => cases warned
  · intro complaint
    cases complaint with
    | refused refusal => rw [refusal.ingest_eq]
    | lengthMismatch gives found long =>
        rw [gives.ingest_eq found]
        exact if_pos long

theorem Complaint.unique {first second : Warning} (left : Complaint pair first)
    (right : Complaint pair second) : first = second := by
  rw [← ingest_warning_iff empty] at left right
  exact Option.some.inj (left.symm.trans right)

theorem exists_complaint_iff (pair : String × String) :
    (∃ warning, Complaint pair warning) ↔ ¬Fits pair := by
  constructor
  · rintro ⟨warning, complaint⟩ ⟨name, cell, found, named, number⟩
    have gives : Gives name pair := ⟨named, Hex.spellsBytes_of_isNumber number⟩
    have exact := (Hex.isNumber_iff.mp number).1
    rw [← ingest_warning_iff empty, gives.ingest_eq found, if_neg (not_not.mpr exact)]
      at complaint
    cases complaint
  · intro misfit
    rcases refusal_or_gives pair with ⟨warning, refusal⟩ | ⟨name, cell, gives, found⟩
    · exact ⟨warning, .refused refusal⟩
    · refine ⟨_, .lengthMismatch gives found ?_⟩
      intro exact
      have number : Hex.IsNumber (2 * cell.size) pair.2 :=
        Hex.isNumber_iff.mpr ⟨exact, gives.spells.isHexText⟩
      exact misfit ⟨name, cell, found, gives.named, number⟩

/-- A pair without a value for a cell leaves it alone. -/
theorem read_ingest_of_not_gives (store : Store)
    (other : ∀ name, name.cell? = some cell → ¬Gives name pair) :
    (store.ingest pair.1 pair.2).1.read cell = store.read cell := by
  rcases refusal_or_gives pair with ⟨warning, refusal⟩ | ⟨name, target, gives, found⟩
  · rw [refusal.ingest_eq]
  · rw [gives.ingest_eq found]
    apply read_write_of_ne
    intro same
    exact other name (same ▸ found) gives

theorem read_ingest (store : Store) (found : name.cell? = some cell)
    (pair : String × String) :
    (store.ingest pair.1 pair.2).1.read cell =
      if Gives name pair then Hex.decodeText cell.size pair.2 else store.read cell := by
  by_cases gives : Gives name pair
  · rw [if_pos gives, gives.ingest_eq found]
    exact read_write_self store cell _
  · rw [if_neg gives]
    apply read_ingest_of_not_gives
    intro other reached
    rwa [KeyName.cell?_injective reached found]

/-- A name and the digits of a block, both in any case of letters, put the block into
the cell of the name. -/
theorem ingest_written (store : Store) (found : name.cell? = some cell)
    (block : Block cell.size) {spelled written : String}
    (named : spelled.map Char.toLower = name.text)
    (digits : written.map Char.toUpper = block.toHex) :
    store.ingest spelled written = (store.write cell block, none) := by
  have number := Hex.isNumber_of_toUpper digits
  have gives : Gives name (spelled, written) := ⟨named, Hex.spellsBytes_of_isNumber number⟩
  have exact := (Hex.isNumber_iff.mp number).1
  rw [gives.ingest_eq found, if_neg (not_not.mpr exact), Hex.decodeText_of_toUpper digits]

theorem ingestAll_eq_takeOver (store : Store) (pairs : List (String × String)) :
    store.ingestAll pairs =
      takeOver (fun store pair => store.ingest pair.1 pair.2) store pairs := by
  induction pairs generalizing store with
  | nil => rfl
  | cons pair rest induction =>
      exact congrArg (fun later => (later.1, (store.ingest pair.1 pair.2).2.toList ++ later.2))
        (induction (store.ingest pair.1 pair.2).1)

/-- The last pair that gives a value for a key. -/
def lastGiven? (name : KeyName) (pairs : List (String × String)) : Option (String × String) :=
  lastPassing? (fun pair => decide (Gives name pair)) pairs

theorem gives_of_lastGiven? {pairs : List (String × String)}
    (last : lastGiven? name pairs = some pair) : Gives name pair := by
  rw [lastGiven?] at last
  obtain ⟨_, passes⟩ := mem_of_lastPassing? last
  exact of_decide_eq_true passes

theorem read_ingestAll (store : Store) (found : name.cell? = some cell)
    (pairs : List (String × String)) :
    (store.ingestAll pairs).1.read cell =
      (lastGiven? name pairs).elim (store.read cell) fun pair =>
        Hex.decodeText cell.size pair.2 := by
  rw [ingestAll_eq_takeOver, lastGiven?]
  apply read_takeOver fun store : Store => store.read cell
  intro store pair
  simp only [read_ingest store found pair, decide_eq_true_eq]

/-- The cells that no name reaches are left alone. -/
theorem read_ingestAll_of_unreached (store : Store)
    (unreached : ∀ name : KeyName, name.cell? ≠ some cell) (pairs : List (String × String)) :
    (store.ingestAll pairs).1.read cell = store.read cell := by
  rw [ingestAll_eq_takeOver]
  apply takeOver_preserves (fun later : Store => later.read cell = store.read cell) _ rfl
  intro reached pair same
  rw [read_ingest_of_not_gives, same]
  intro name found
  exact absurd found (unreached name)

theorem not_reached_of_unknown (unknown : cell.name.isKnown = false) (name : KeyName) :
    name.cell? ≠ some cell := by
  intro found
  rw [Cell.isKnown_name_of_cell? found] at unknown
  cases unknown

theorem reported_ingestAll (store : Store) (pairs : List (String × String)) :
    Reported Complaint pairs (store.ingestAll pairs).2 := by
  rw [ingestAll_eq_takeOver]
  exact reported_takeOver ingest_warning_iff store pairs

/-- Of pairs with different names at most one gives a value for a key. -/
theorem length_filter_gives_le {pairs : List (String × String)}
    (different : (pairs.map fun pair => pair.1.map Char.toLower).Nodup) (name : KeyName) :
    (pairs.filter fun pair => decide (Gives name pair)).length ≤ 1 := by
  have names : (pairs.filter fun pair => decide (Gives name pair)).map
        (fun pair => pair.1.map Char.toLower) =
      List.replicate (pairs.filter fun pair => decide (Gives name pair)).length name.text := by
    rw [List.map_eq_replicate_iff]
    intro pair member
    exact (of_decide_eq_true (List.mem_filter.mp member).2).named
  have fewer : ((pairs.filter fun pair => decide (Gives name pair)).map
      fun pair => pair.1.map Char.toLower).Nodup :=
    different.sublist (List.filter_sublist.map _)
  rw [names] at fewer
  exact List.nodup_replicate.mp fewer

/-- The order of pairs with different names does not matter. -/
theorem ingestAll_eq_of_perm (store : Store) {pairs reordered : List (String × String)}
    (permutation : pairs.Perm reordered)
    (different : (pairs.map fun pair => pair.1.map Char.toLower).Nodup) :
    (store.ingestAll reordered).1 = (store.ingestAll pairs).1 := by
  apply Store.ext
  intro cell
  cases known : cell.name.isKnown with
  | false =>
      have unreached := not_reached_of_unknown known
      rw [read_ingestAll_of_unreached store unreached,
        read_ingestAll_of_unreached store unreached]
  | true =>
      have found := Cell.cell?_name known
      have last : lastGiven? cell.name pairs = lastGiven? cell.name reordered :=
        lastPassing?_eq_of_perm permutation (length_filter_gives_le different cell.name)
      rw [read_ingestAll store found, read_ingestAll store found, last]

/-- What a key is after pairs were taken over: the start of the bytes that the last
value for it spells, with zeros behind them, or what it was before. -/
inductive HoldsLast (name : KeyName) (pairs : List (String × String)) {size : Nat}
    (before after : Block size) : Prop where
  | given {pair : String × String} {bytes : Bytes} : lastGiven? name pairs = some pair →
      Hex.encode bytes = pair.2.map Char.toUpper → after.bytes = bytes.fit size →
      HoldsLast name pairs before after
  | untouched : (∀ pair ∈ pairs, ¬Gives name pair) → after = before →
      HoldsLast name pairs before after

theorem holdsLast_ingestAll (store : Store) (found : name.cell? = some cell)
    (pairs : List (String × String)) :
    HoldsLast name pairs (store.read cell) ((store.ingestAll pairs).1.read cell) := by
  have value := read_ingestAll store found pairs
  cases last : lastGiven? name pairs with
  | none =>
      rw [last] at value
      refine .untouched ?_ value
      intro pair member
      exact of_decide_eq_false (lastPassing?_eq_none_iff.mp last pair member)
  | some pair =>
      rw [last] at value
      have spells := (gives_of_lastGiven? last).spells
      exact .given last (Hex.encode_decode_of_hex spells.even spells.digits)
        (congrArg Block.bytes value)

/-- After pairs were taken over, every key is what the last pair with a value for it
says and was left alone if there is none, and so were the cells that no name reaches.
There is a warning for every pair that does not fit its key, in their order, and one
only.  So the order of pairs with different names is of no importance. -/
theorem ingestAll_keepsLast (store : Store) (pairs : List (String × String)) :
    (∀ (name : KeyName) (cell : Cell), name.cell? = some cell →
        HoldsLast name pairs (store.read cell) ((store.ingestAll pairs).1.read cell)) ∧
      (∀ cell : Cell, cell.name.isKnown = false →
        (store.ingestAll pairs).1.read cell = store.read cell) ∧
      (∀ warnings, Reported Complaint pairs warnings ↔
        (store.ingestAll pairs).2 = warnings) ∧
      (∀ pair, (∃ warning, Complaint pair warning) ↔ ¬Fits pair) ∧
      ∀ reordered : List (String × String), pairs.Perm reordered →
        (pairs.map fun pair => pair.1.map Char.toLower).Nodup →
          (store.ingestAll reordered).1 = (store.ingestAll pairs).1 := by
  refine ⟨?_, ?_, ?_, exists_complaint_iff, ?_⟩
  · intro name cell found
    exact holdsLast_ingestAll store found pairs
  · intro cell unknown
    exact read_ingestAll_of_unreached store (not_reached_of_unknown unknown) pairs
  · apply (reported_ingestAll store pairs).iff_eq
    intro pair first second
    exact Complaint.unique
  · intro reordered permutation different
    exact ingestAll_eq_of_perm store permutation different

end Store

end Gamecard
