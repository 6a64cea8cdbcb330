import Gamecard.Key.SlotTable

/-!
# Filling key slots

A slot table is what can be read of its slots and whether the last key was a
development key.  Calls for rising generations leave the key of each call in its
slot, and all other slots as they were.
-/

namespace Gamecard.SlotTable

theorem get?_empty (generation : Nat) : empty.get? generation = none := by
  rw [get?, empty, Vector.getElem?_replicate]
  split <;> rfl

theorem get?_install (table : SlotTable) {call : Installation}
    (within : call.generation < Derivation.generationCount) (generation : Nat) :
    (table.install call).get? generation =
      if call.generation = generation then some call.key else table.get? generation := by
  rw [install, dif_pos within, get?, Vector.getElem?_set]
  split
  · rfl
  · rfl

theorem isDev_install (table : SlotTable) {call : Installation}
    (within : call.generation < Derivation.generationCount) :
    (table.install call).isDev = call.isDev := by
  rw [install, dif_pos within]

theorem ext_get? {left right : SlotTable}
    (slots : ∀ generation, left.get? generation = right.get? generation)
    (isDev : left.isDev = right.isDev) : left = right := by
  have same : left.slots = right.slots := by
    apply Vector.ext
    intro generation within
    have slot := slots generation
    rwa [get?, get?, Vector.getElem?_eq_getElem within, Vector.getElem?_eq_getElem within] at slot
  cases left
  cases right
  cases same
  cases isDev
  rfl

/-- Calls for rising generations that have slots, all with keys of one kind. -/
structure Rising (isDev : Bool) (calls : List Installation) : Prop where
  ascending : calls.Pairwise fun earlier later => earlier.generation < later.generation
  within : ∀ call ∈ calls, call.generation < Derivation.generationCount
  isDev_eq : ∀ call ∈ calls, call.isDev = isDev

namespace Rising

variable {isDev : Bool} {calls : List Installation}

theorem tail {call : Installation} (rising : Rising isDev (call :: calls)) :
    Rising isDev calls where
  ascending := rising.ascending.tail
  within later member := rising.within later (List.mem_cons_of_mem call member)
  isDev_eq later member := rising.isDev_eq later (List.mem_cons_of_mem call member)

theorem get?_of_forall_ne (rising : Rising isDev calls) (table : SlotTable) {generation : Nat}
    (others : ∀ call ∈ calls, call.generation ≠ generation) :
    (calls.foldl install table).get? generation = table.get? generation := by
  induction calls generalizing table with
  | nil => rfl
  | cons call rest induction =>
      obtain ⟨other, later⟩ := List.forall_mem_cons.mp others
      rw [List.foldl_cons, induction rising.tail (table.install call) later,
        get?_install table (rising.within call List.mem_cons_self), if_neg other]

theorem get?_of_mem (rising : Rising isDev calls) (table : SlotTable) {call : Installation}
    (member : call ∈ calls) :
    (calls.foldl install table).get? call.generation = some call.key := by
  induction calls generalizing table with
  | nil => cases member
  | cons first rest induction =>
      rw [List.foldl_cons]
      rcases List.mem_cons.mp member with same | later
      · -- The calls behind the first one are for other generations.
        have behind : ∀ other ∈ rest, other.generation ≠ first.generation := by
          intro other listed
          exact Nat.ne_of_gt (List.rel_of_pairwise_cons rising.ascending listed)
        rw [same, rising.tail.get?_of_forall_ne (table.install first) behind,
          get?_install table (rising.within first List.mem_cons_self), if_pos rfl]
      · exact induction rising.tail (table.install first) later

theorem isDev_foldl (rising : Rising isDev calls) (table : SlotTable) :
    (calls.foldl install table).isDev = if calls = [] then table.isDev else isDev := by
  induction calls generalizing table with
  | nil => rfl
  | cons call rest induction =>
      have first := isDev_install table (rising.within call List.mem_cons_self)
      rw [rising.isDev_eq call List.mem_cons_self] at first
      rw [List.foldl_cons, induction rising.tail (table.install call), first, ite_self]
      rfl

/-- The same calls for a second time change nothing. -/
theorem foldl_foldl (rising : Rising isDev calls) (table : SlotTable) :
    calls.foldl install (calls.foldl install table) = calls.foldl install table := by
  apply ext_get?
  · intro generation
    by_cases called : ∃ call ∈ calls, call.generation = generation
    · obtain ⟨call, member, same⟩ := called
      rw [← same, rising.get?_of_mem _ member, rising.get?_of_mem _ member]
    · have others : ∀ call ∈ calls, call.generation ≠ generation := by
        intro call member same
        exact called ⟨call, member, same⟩
      exact rising.get?_of_forall_ne _ others
  · rw [rising.isDev_foldl, rising.isDev_foldl]
    split <;> rfl

end Rising

end Gamecard.SlotTable
