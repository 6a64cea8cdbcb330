import Gamecard.Warning
import Mathlib.Data.List.Basic

/-!
# Items taken over in turn

Pairs of texts are taken over one after the other.  The last one that counts for a
key decides what is kept for it, and the warnings come in the order of the pairs, at
most one for each of them.  What there is to say about a pair is a relation here, so
that it can be told without the function that tests the pair.
-/

namespace Gamecard

variable {α : Type}

/-- The last of the items that pass a test. -/
def lastPassing? (test : α → Bool) (items : List α) : Option α :=
  (items.filter test).getLast?

theorem lastPassing?_cons (test : α → Bool) (item : α) (rest : List α) :
    lastPassing? test (item :: rest) =
      (lastPassing? test rest).or (if test item then some item else none) := by
  unfold lastPassing?
  rw [List.getLast?_filter, List.getLast?_filter, List.reverse_cons, List.find?_append,
    List.find?_singleton]

theorem mem_of_lastPassing? {test : α → Bool} {items : List α} {item : α}
    (last : lastPassing? test items = some item) : item ∈ items ∧ test item = true :=
  List.mem_filter.mp (List.mem_of_getLast? last)

theorem lastPassing?_eq_none_iff {test : α → Bool} {items : List α} :
    lastPassing? test items = none ↔ ∀ item ∈ items, test item = false := by
  simp only [lastPassing?, List.getLast?_eq_none_iff, List.filter_eq_nil_iff,
    Bool.not_eq_true]

/-- Where at most one item passes, the order of the items does not matter. -/
theorem lastPassing?_eq_of_perm {test : α → Bool} {left right : List α}
    (reordered : left.Perm right) (single : (left.filter test).length ≤ 1) :
    lastPassing? test left = lastPassing? test right := by
  have passing : (left.filter test).Perm (right.filter test) := reordered.filter test
  have same : left.filter test = right.filter test := by
    match kept : left.filter test with
    | [] =>
        rw [kept] at passing
        exact passing.nil_eq
    | [item] =>
        rw [kept] at passing
        exact List.singleton_perm.mp passing
    | _ :: _ :: _ =>
        rw [kept] at single
        exact absurd single (by simp)
  exact congrArg List.getLast? same

/-- The warnings about the items of a list in turn: one for each item about which
there is something to say, and none for any other. -/
inductive Reported (complaint : α → Warning → Prop) : List α → Diagnostics → Prop where
  | nil : Reported complaint [] []
  | silent {item : α} {rest : List α} {warnings : Diagnostics} :
      (∀ warning, ¬complaint item warning) → Reported complaint rest warnings →
      Reported complaint (item :: rest) warnings
  | warned {item : α} {rest : List α} {warning : Warning} {warnings : Diagnostics} :
      complaint item warning → Reported complaint rest warnings →
      Reported complaint (item :: rest) (warning :: warnings)

namespace Reported

variable {complaint : α → Warning → Prop} {items : List α} {warnings others : Diagnostics}

/-- A step that reports what there is to say about its item. -/
theorem step {item : α} {outcome : Option Warning}
    (own : ∀ warning, outcome = some warning ↔ complaint item warning)
    (rest : Reported complaint items warnings) :
    Reported complaint (item :: items) (outcome.toList ++ warnings) := by
  cases outcome with
  | none =>
      apply silent _ rest
      intro warning complained
      cases (own warning).mpr complained
  | some warning => exact .warned ((own warning).mp rfl) rest

theorem unique
    (single : ∀ item first second, complaint item first → complaint item second →
      first = second)
    (left : Reported complaint items warnings) (right : Reported complaint items others) :
    warnings = others := by
  induction left generalizing others with
  | nil =>
      cases right
      rfl
  | silent quiet rest induction =>
      cases right with
      | silent _ otherRest => exact induction otherRest
      | warned complained _ => exact absurd complained (quiet _)
  | warned complained rest induction =>
      cases right with
      | silent quiet _ => exact absurd complained (quiet _)
      | warned otherComplained otherRest =>
          rw [single _ _ _ complained otherComplained, induction otherRest]

/-- Where there is only one thing to say about an item, the warnings are determined. -/
theorem iff_eq
    (single : ∀ item first second, complaint item first → complaint item second →
      first = second)
    (reported : Reported complaint items warnings) (others : Diagnostics) :
    Reported complaint items others ↔ warnings = others := by
  constructor
  · exact reported.unique single
  · intro same
    rw [← same]
    exact reported

end Reported

section TakeOver

variable {σ β : Type} {step : σ → α → σ × Option Warning} {state : σ}

/-- Items taken over one after the other, with what each step has to say. -/
def takeOver (step : σ → α → σ × Option Warning) (state : σ) : List α → σ × Diagnostics
  | [] => (state, [])
  | item :: rest =>
    let later := takeOver step (step state item).1 rest
    (later.1, (step state item).2.toList ++ later.2)

/-- What every step keeps holds in the end. -/
theorem takeOver_preserves (invariant : σ → Prop)
    (kept : ∀ state item, invariant state → invariant (step state item).1)
    (holds : invariant state) (items : List α) : invariant (takeOver step state items).1 := by
  induction items generalizing state with
  | nil => exact holds
  | cons item rest induction => exact induction (kept state item holds)

/-- Where every item that passes a test sets a value and no other touches it, the value
is the one that the last of those items sets. -/
theorem read_takeOver (read : σ → β) {test : α → Bool} {value : α → β}
    (own : ∀ state item,
      read (step state item).1 = if test item then value item else read state)
    (state : σ) (items : List α) :
    read (takeOver step state items).1 =
      (lastPassing? test items).elim (read state) value := by
  induction items generalizing state with
  | nil => rfl
  | cons item rest induction =>
      have later := induction (step state item).1
      rw [own] at later
      refine later.trans ?_
      rw [lastPassing?_cons]
      by_cases passes : test item = true
      · -- The item counts only if no later one passes.
        rw [if_pos passes, if_pos passes]
        cases lastPassing? test rest <;> rfl
      · rw [if_neg passes, if_neg passes, Option.or_none]

theorem reported_takeOver {complaint : α → Warning → Prop}
    (own : ∀ state item warning, (step state item).2 = some warning ↔ complaint item warning)
    (state : σ) (items : List α) : Reported complaint items (takeOver step state items).2 := by
  induction items generalizing state with
  | nil => exact .nil
  | cons item rest induction => exact .step (own state item) (induction (step state item).1)

end TakeOver

end Gamecard
