import Gamecard.Proofs.Key.TitleKeys
import Gamecard.Proofs.Sequence
import Mathlib.Data.List.Dedup

/-!
# Title keys after a list of pairs

A pair whose rights id is no number of thirty-two digits is dropped.  Of the others
the last one for an id decides its key, and the ids that differ in the case of letters
only are one id.  The keys are kept in the order of their ids, each id once.
-/

namespace Gamecard

instance (count : Nat) (text : String) : Decidable (Hex.IsNumber count text) :=
  inferInstanceAs (Decidable (_ ∧ _))

namespace TitleKeys

/-- What is wrong with a rights id, by the first test that it does not pass. -/
inductive IdFault (rightsId : String) : RightsIdFault → Prop where
  | oddLength : (Utf8.encode rightsId).length % 2 ≠ 0 → IdFault rightsId .oddLength
  | wrongLength : (Utf8.encode rightsId).length % 2 = 0 →
      (Utf8.encode rightsId).length ≠ 32 → IdFault rightsId .wrongLength
  | notHex : (Utf8.encode rightsId).length = 32 →
      (∃ character ∈ rightsId.toList, Hex.isDigit character = false) →
      IdFault rightsId .notHex

/-- What there is to say about a pair. -/
inductive Complaint (pair : String × String) : Warning → Prop where
  | malformedId {fault : RightsIdFault} : IdFault pair.1 fault →
      Complaint pair (.malformedRightsId pair.1 fault)
  | malformedKey : Hex.IsNumber 32 pair.1 → (Utf8.encode pair.2).length ≠ 32 →
      Complaint pair (.malformedTitleKey pair.1)

/-- The rights id of a pair that is not dropped. -/
def rightsId? (pair : String × String) : Option RightsId :=
  if Hex.IsNumber 32 pair.1 then some (Hex.decodeText 16 pair.1) else none

variable {pair : String × String} {id : RightsId} {key : Key}

/-- The id of a pair is the one that it spells in whatever case of letters. -/
theorem rightsId?_eq_some_iff :
    rightsId? pair = some id ↔ pair.1.map Char.toUpper = id.toHex := by
  unfold rightsId?
  constructor
  · intro spelled
    split at spelled
    next number =>
      cases spelled
      exact (Hex.toHex_decodeText_of_isNumber number).symm
    next => cases spelled
  · intro written
    have number : Hex.IsNumber (2 * 16) pair.1 := Hex.isNumber_of_toUpper written
    rw [if_pos number, Hex.decodeText_of_toUpper written]

theorem rightsIdFault?_of_idFault {rightsId : String} {fault : RightsIdFault}
    (wrong : IdFault rightsId fault) : rightsIdFault? rightsId = some fault := by
  cases wrong with
  | oddLength odd => exact if_pos odd
  | wrongLength even other =>
      simp only [rightsIdFault?, even, ne_eq, not_true_eq_false, if_false, other,
        not_false_eq_true, if_true]
  | notHex long exception =>
      have mixed := Hex.isHexText_eq_false exception
      simp only [rightsIdFault?, long, mixed]
      rfl

theorem isNumber_or_idFault (rightsId : String) :
    Hex.IsNumber 32 rightsId ∨ ∃ fault, IdFault rightsId fault := by
  by_cases odd : (Utf8.encode rightsId).length % 2 ≠ 0
  · exact .inr ⟨_, .oddLength odd⟩
  · by_cases long : (Utf8.encode rightsId).length = 32
    · by_cases digits : ∀ character ∈ rightsId.toList, Hex.isDigit character = true
      · exact .inl (Hex.isNumber_iff.mpr ⟨long, (Hex.isHexText_iff rightsId).mpr digits⟩)
      · refine .inr ⟨_, .notHex long ?_⟩
        simpa using digits
    · exact .inr ⟨_, .wrongLength (not_not.mp odd) long⟩

theorem IdFault.not_isNumber {rightsId : String} {fault : RightsIdFault}
    (wrong : IdFault rightsId fault) : ¬Hex.IsNumber 32 rightsId := by
  intro number
  have none := (rightsIdFault?_eq_none_iff rightsId).mpr number
  rw [rightsIdFault?_of_idFault wrong] at none
  cases none

/-- A pair with a fault in its rights id is dropped. -/
theorem IdFault.ingest_eq {fault : RightsIdFault} (wrong : IdFault pair.1 fault)
    (keys : TitleKeys) :
    keys.ingest pair.1 pair.2 = (keys, some (.malformedRightsId pair.1 fault)) := by
  rw [ingest, rightsIdFault?_of_idFault wrong]

theorem dropped_iff (keys : TitleKeys) (pair : String × String) :
    (∃ fault, IdFault pair.1 fault ∧
        keys.ingest pair.1 pair.2 = (keys, some (.malformedRightsId pair.1 fault))) ↔
      ¬Hex.IsNumber 32 pair.1 := by
  constructor
  · rintro ⟨fault, wrong, _⟩
    exact wrong.not_isNumber
  · intro other
    rcases isNumber_or_idFault pair.1 with number | ⟨fault, wrong⟩
    · exact absurd number other
    · exact ⟨fault, wrong, wrong.ingest_eq keys⟩

theorem ingest_warning_iff (keys : TitleKeys) (pair : String × String) (warning : Warning) :
    (keys.ingest pair.1 pair.2).2 = some warning ↔ Complaint pair warning := by
  constructor
  · intro warned
    rcases isNumber_or_idFault pair.1 with number | ⟨fault, wrong⟩
    · rw [ingest_of_isNumber keys number] at warned
      dsimp only at warned
      split at warned
      next long =>
        cases warned
        exact .malformedKey number long
      next => cases warned
    · rw [wrong.ingest_eq] at warned
      cases warned
      exact .malformedId wrong
  · intro complaint
    cases complaint with
    | malformedId wrong => rw [wrong.ingest_eq]
    | malformedKey number long =>
        rw [ingest_of_isNumber keys number]
        exact if_pos long

theorem Complaint.unique {first second : Warning} (left : Complaint pair first)
    (right : Complaint pair second) : first = second := by
  rw [← ingest_warning_iff empty] at left right
  exact Option.some.inj (left.symm.trans right)

theorem ingestAll_eq_takeOver (keys : TitleKeys) (pairs : List (String × String)) :
    keys.ingestAll pairs =
      takeOver (fun keys pair => keys.ingest pair.1 pair.2) keys pairs := by
  induction pairs generalizing keys with
  | nil => rfl
  | cons pair rest induction =>
      exact congrArg (fun later => (later.1, (keys.ingest pair.1 pair.2).2.toList ++ later.2))
        (induction (keys.ingest pair.1 pair.2).1)

theorem reported_ingestAll (keys : TitleKeys) (pairs : List (String × String)) :
    Reported Complaint pairs (keys.ingestAll pairs).2 := by
  rw [ingestAll_eq_takeOver]
  exact reported_takeOver ingest_warning_iff keys pairs

/-- What taking over a pair does to the keys. -/
theorem ingest_fst (keys : TitleKeys) (pair : String × String) :
    (keys.ingest pair.1 pair.2).1 =
      (rightsId? pair).elim keys fun id => keys.insert id (Hex.decodeText 16 pair.2) := by
  rcases isNumber_or_idFault pair.1 with number | ⟨fault, wrong⟩
  · rw [ingest_of_isNumber keys number, rightsId?, if_pos number, Option.elim_some]
  · rw [wrong.ingest_eq, rightsId?, if_neg wrong.not_isNumber, Option.elim_none]

section Order

variable {entries : List (RightsId × Key)}

/-- The entries stand in the order of their ids, and no id stands there twice. -/
def Ascending (entries : List (RightsId × Key)) : Prop :=
  entries.Pairwise fun left right => left.1.bytes < right.1.bytes

theorem lt_of_not_lt {left right : RightsId} (different : left ≠ right)
    (notBefore : ¬left.bytes < right.bytes) : right.bytes < left.bytes := by
  by_contra notAfter
  exact different (Block.ext (List.le_antisymm notAfter notBefore))

theorem mem_insertEntry {entry : RightsId × Key} (member : entry ∈ insertEntry id key entries) :
    entry = (id, key) ∨ entry ∈ entries := by
  induction entries with
  | nil => exact .inl (List.mem_singleton.mp member)
  | cons head rest induction =>
      obtain ⟨other, kept⟩ := head
      rw [insertEntry] at member
      split at member
      next =>
        exact (List.mem_cons.mp member).imp_right (List.mem_cons_of_mem _)
      next =>
        split at member
        next => exact List.mem_cons.mp member
        next =>
          rcases List.mem_cons.mp member with here | later
          · exact .inr (List.mem_cons.mpr (.inl here))
          · exact (induction later).imp_right (List.mem_cons_of_mem _)

/-- An entry goes to its place in the order. -/
theorem Ascending.insertEntry (ascending : Ascending entries) (id : RightsId) (key : Key) :
    Ascending (insertEntry id key entries) := by
  induction entries with
  | nil => exact List.pairwise_singleton _ _
  | cons head rest induction =>
      obtain ⟨other, kept⟩ := head
      obtain ⟨first, later⟩ := List.pairwise_cons.mp ascending
      rw [TitleKeys.insertEntry]
      split
      next same =>
        subst same
        exact List.pairwise_cons.mpr ⟨first, later⟩
      next different =>
        split
        next before =>
          refine List.pairwise_cons.mpr ⟨?_, ascending⟩
          intro entry member
          rcases List.mem_cons.mp member with here | behind
          · rw [here]
            exact before
          · exact List.lt_trans before (first entry behind)
        next notBefore =>
          refine List.pairwise_cons.mpr ⟨?_, induction later⟩
          intro entry member
          rcases mem_insertEntry member with inserted | behind
          · rw [inserted]
            exact lt_of_not_lt different notBefore
          · exact first entry behind

theorem Ascending.nodup_ids (ascending : Ascending entries) :
    (entries.map Prod.fst).Nodup := by
  apply List.pairwise_map.mpr
  apply ascending.imp
  intro left right before same
  rw [same] at before
  exact List.lt_irrefl _ before

theorem lookup_insertEntry_of_ne {other : RightsId} (different : other ≠ id) :
    (insertEntry id key entries).lookup other = entries.lookup other := by
  have passed : (other == id) = false := beq_eq_false_iff_ne.mpr different
  induction entries with
  | nil => rw [insertEntry, List.lookup_cons, passed]
  | cons head rest induction =>
      obtain ⟨place, kept⟩ := head
      rw [insertEntry]
      split
      next same => rw [List.lookup_cons, List.lookup_cons, ← same, passed]
      next =>
        split
        next => rw [List.lookup_cons, passed]
        next => rw [List.lookup_cons, List.lookup_cons, induction]

/-- In a list of entries with different ids an entry is found by its id. -/
theorem lookup_eq_some_iff_mem (different : (entries.map Prod.fst).Nodup) :
    entries.lookup id = some key ↔ (id, key) ∈ entries := by
  rw [List.lookup_eq_some_iff]
  constructor
  · rintro ⟨before, after, split, _⟩
    rw [split]
    exact List.mem_append_right before List.mem_cons_self
  · intro member
    obtain ⟨before, after, split⟩ := List.append_of_mem member
    refine ⟨before, after, split, ?_⟩
    intro entry earlier
    rw [split, List.map_append, List.map_cons] at different
    rw [bne_iff_ne]
    intro same
    have disjoint := (List.nodup_append.mp different).2.2 entry.1
      (List.mem_map_of_mem earlier) id List.mem_cons_self
    exact disjoint same.symm

end Order

theorem get?_insert_of_ne (keys : TitleKeys) {other : RightsId} (different : other ≠ id)
    (key : Key) : (keys.insert id key).get? other = keys.get? other :=
  lookup_insertEntry_of_ne different

theorem get?_ingest (keys : TitleKeys) (pair : String × String) (id : RightsId) :
    (keys.ingest pair.1 pair.2).1.get? id =
      if rightsId? pair = some id then some (Hex.decodeText 16 pair.2) else keys.get? id := by
  rw [ingest_fst]
  cases spelled : rightsId? pair with
  | none => rfl
  | some other =>
      rw [Option.elim_some]
      by_cases same : other = id
      · rw [same, if_pos rfl, get?_insert]
      · have different : ¬some other = some id := mt Option.some.inj same
        rw [if_neg different, get?_insert_of_ne keys (Ne.symm same)]

/-- The last pair for a rights id. -/
def lastFor? (id : RightsId) (pairs : List (String × String)) : Option (String × String) :=
  lastPassing? (fun pair => decide (rightsId? pair = some id)) pairs

theorem get?_ingestAll (keys : TitleKeys) (pairs : List (String × String)) (id : RightsId) :
    (keys.ingestAll pairs).1.get? id =
      (lastFor? id pairs).elim (keys.get? id) fun pair =>
        some (Hex.decodeText 16 pair.2) := by
  rw [ingestAll_eq_takeOver, lastFor?]
  apply read_takeOver fun keys : TitleKeys => keys.get? id
  intro keys pair
  simp only [get?_ingest keys pair id, decide_eq_true_eq]

theorem ascending_ingest {keys : TitleKeys} (ascending : Ascending keys.entries)
    (pair : String × String) : Ascending (keys.ingest pair.1 pair.2).1.entries := by
  rw [ingest_fst]
  cases rightsId? pair with
  | none => exact ascending
  | some id => exact ascending.insertEntry id _

theorem ascending_ingestAll {keys : TitleKeys} (ascending : Ascending keys.entries)
    (pairs : List (String × String)) : Ascending (keys.ingestAll pairs).1.entries := by
  rw [ingestAll_eq_takeOver]
  apply takeOver_preserves (fun keys : TitleKeys => Ascending keys.entries) _ ascending
  intro keys pair ordered
  exact ascending_ingest ordered pair

theorem ascending_empty : Ascending empty.entries :=
  List.Pairwise.nil

/-- What is kept for an id after pairs were taken over into no keys: what the last
value for it is taken for. -/
inductive HoldsLast (id : RightsId) (pairs : List (String × String)) :
    Option Key → Prop where
  | given {pair : String × String} {key : Key} : lastFor? id pairs = some pair →
      Hex.TakenFor pair.2 key → HoldsLast id pairs (some key)
  | missing : (∀ pair ∈ pairs, rightsId? pair ≠ some id) → HoldsLast id pairs none

theorem holdsLast_ingestAll (id : RightsId) (pairs : List (String × String)) :
    HoldsLast id pairs ((empty.ingestAll pairs).1.get? id) := by
  rw [get?_ingestAll]
  cases last : lastFor? id pairs with
  | none =>
      apply HoldsLast.missing
      intro pair member
      exact of_decide_eq_false (lastPassing?_eq_none_iff.mp last pair member)
  | some pair => exact .given last (Hex.takenFor_decodeText 16 pair.2)

/-- There is a key for the ids of the pairs that are not dropped, and for no others. -/
theorem HoldsLast.exists_iff {pairs : List (String × String)} {kept : Option Key}
    (holds : HoldsLast id pairs kept) :
    (∃ key, kept = some key) ↔ id ∈ pairs.filterMap rightsId? := by
  rw [List.mem_filterMap]
  cases holds with
  | @given pair key last _ =>
      rw [lastFor?] at last
      obtain ⟨member, passes⟩ := mem_of_lastPassing? last
      exact iff_of_true ⟨key, rfl⟩ ⟨pair, member, of_decide_eq_true passes⟩
  | missing none =>
      constructor
      · rintro ⟨key, impossible⟩
        cases impossible
      · rintro ⟨pair, member, spelled⟩
        exact absurd spelled (none pair member)

theorem mem_entries_ingestAll (pairs : List (String × String)) (id : RightsId) (key : Key) :
    (id, key) ∈ (empty.ingestAll pairs).1.entries ↔
      (empty.ingestAll pairs).1.get? id = some key :=
  (lookup_eq_some_iff_mem (ascending_ingestAll ascending_empty pairs).nodup_ids).symm

/-- There are as many keys as there are different ids. -/
theorem size_ingestAll (pairs : List (String × String)) :
    (empty.ingestAll pairs).1.size = (pairs.filterMap rightsId?).dedup.length := by
  have ids : ((empty.ingestAll pairs).1.entries.map Prod.fst).Perm
      (pairs.filterMap rightsId?).dedup := by
    apply (List.perm_ext_iff_of_nodup
      (ascending_ingestAll ascending_empty pairs).nodup_ids (List.nodup_dedup _)).mpr
    intro id
    rw [List.mem_dedup, ← (holdsLast_ingestAll id pairs).exists_iff, List.mem_map]
    constructor
    · rintro ⟨⟨other, key⟩, member, same⟩
      cases same
      exact ⟨key, (mem_entries_ingestAll pairs other key).mp member⟩
    · rintro ⟨key, kept⟩
      exact ⟨(id, key), (mem_entries_ingestAll pairs id key).mpr kept, rfl⟩
  rw [size, ← ids.length_eq, List.length_map]

/-- Of the pairs that are taken over into no keys, those whose rights id is no number of
thirty-two digits are dropped and change nothing.  The key for an id is what the value
of the last pair for it is taken for, the case of letters in ids being of no
importance.  The entries have the keys in the order of their ids, one for each
different id, and the warnings come in the order of the pairs. -/
theorem ingestAll_ordered (pairs : List (String × String)) :
    (∀ (keys : TitleKeys) (pair : String × String),
        (∃ fault, IdFault pair.1 fault ∧
            keys.ingest pair.1 pair.2 = (keys, some (.malformedRightsId pair.1 fault))) ↔
          ¬Hex.IsNumber 32 pair.1) ∧
      (∀ pair id, rightsId? pair = some id ↔ pair.1.map Char.toUpper = id.toHex) ∧
      (∀ id, HoldsLast id pairs ((empty.ingestAll pairs).1.get? id)) ∧
      (∀ id key, (id, key) ∈ (empty.ingestAll pairs).1.entries ↔
        (empty.ingestAll pairs).1.get? id = some key) ∧
      Ascending (empty.ingestAll pairs).1.entries ∧
      (empty.ingestAll pairs).1.size = (pairs.filterMap rightsId?).dedup.length ∧
      ∀ warnings, Reported Complaint pairs warnings ↔
        (empty.ingestAll pairs).2 = warnings := by
  refine ⟨dropped_iff, fun pair id => rightsId?_eq_some_iff, ?_, mem_entries_ingestAll pairs,
    ascending_ingestAll ascending_empty pairs, size_ingestAll pairs, ?_⟩
  · intro id
    exact holdsLast_ingestAll id pairs
  · apply (reported_ingestAll empty pairs).iff_eq
    intro pair first second
    exact Complaint.unique

end TitleKeys

end Gamecard
