import Gamecard.Key.Derivation

/-!
# Stages of derivation

Every cell has a stage after which it does not change any more.  The rule of a
stage looks at cells of earlier stages only and leaves those alone, so what it
sees is what the derived store holds.  The derived store is therefore described
by its own rules: a cell holds what the last rule that has a value for it gives
on the derived store, and what it held before if no rule has one.
-/

namespace Gamecard.Derivation

/-- The number of the last stage that may write to a cell; zero for cells that
derivation only reads. -/
def stage : Cell → Nat
  | .entry .keyblobKey _ => 1
  | .entry .keyblobMacKey _ | .scalar .deviceKey => 2
  | .entry .keyblob _ => 3
  | .entry .tsecRootKey _ | .entry .package1MacKey _ | .entry .package1Key _ => 5
  | .entry .masterKek _ => 7
  | .entry .masterKey _ => 8
  | .entry .keyAreaKeyApplication _ | .entry .keyAreaKeyOcean _ => 9
  | .entry .keyAreaKeySystem _ | .entry .titlekek _ | .entry .package2Key _ => 9
  | .scalar .headerKey | .scalar .sdCardSaveKey => 10
  | .scalar .sdCardNcaKey | .scalar .saveMacKey => 10
  | _ => 0

def AgreeUpTo (last : Nat) (left right : Store) : Prop :=
  ∀ cell, stage cell ≤ last → left.read cell = right.read cell

/-- The rule belongs to a stage after `last`: it does not write to cells up to
`last`, and it looks at no others. -/
structure Follows (last : Nat) (rule : Rule) : Prop where
  keeps : ∀ store cell, stage cell ≤ last → rule store cell = none
  looks : ∀ {left right : Store}, AgreeUpTo last left right → rule left = rule right

/-- The rules belong to the stages after `last`, one stage each. -/
def Stratified : Nat → List Rule → Prop
  | _, [] => True
  | last, rule :: rest => Follows last rule ∧ Stratified (last + 1) rest

def run (rules : List Rule) (store : Store) : Store :=
  rules.foldl (fun store rule => store.assign (rule store)) store

/-- What the last of the rules that has a value for a cell gives. -/
def outcome? (rules : List Rule) (store : Store) (cell : Cell) :
    Option (Block cell.size) :=
  rules.reverse.findSome? fun rule => rule store cell

theorem AgreeUpTo.symm {last : Nat} {left right : Store}
    (agree : AgreeUpTo last left right) : AgreeUpTo last right left := by
  intro cell early
  exact (agree cell early).symm

theorem AgreeUpTo.trans {last : Nat} {left middle right : Store}
    (first : AgreeUpTo last left middle) (second : AgreeUpTo last middle right) :
    AgreeUpTo last left right := by
  intro cell early
  exact (first cell early).trans (second cell early)

theorem AgreeUpTo.mono {last earlier : Nat} {left right : Store}
    (agree : AgreeUpTo last left right) (le : earlier ≤ last) :
    AgreeUpTo earlier left right := by
  intro cell early
  exact agree cell (Nat.le_trans early le)

theorem AgreeUpTo.set? {last : Nat} {left right : Store}
    (agree : AgreeUpTo last left right) (cell : Cell) (early : stage cell ≤ last) :
    left.set? cell = right.set? cell := by
  simp only [Store.set?, agree cell early]

theorem AgreeUpTo.source? {last : Nat} {left right : Store}
    (agree : AgreeUpTo last left right) (cell : Cell) (source : stage cell = 0) :
    left.set? cell = right.set? cell :=
  agree.set? cell (source ▸ Nat.zero_le last)

theorem Follows.agree_assign {last : Nat} {rule : Rule}
    (follows : Follows last rule) (store : Store) :
    AgreeUpTo last (store.assign (rule store)) store := by
  intro cell early
  rw [Store.read_assign, follows.keeps store cell early, Option.getD_none]

theorem run_cons (rule : Rule) (rules : List Rule) (store : Store) :
    run (rule :: rules) store = run rules (store.assign (rule store)) := by
  simp only [run, List.foldl_cons]

theorem outcome?_cons (rule : Rule) (rules : List Rule) (store : Store) (cell : Cell) :
    outcome? (rule :: rules) store cell =
      (outcome? rules store cell).or (rule store cell) := by
  simp only [outcome?, List.reverse_cons, List.findSome?_append, List.findSome?_singleton]

theorem Stratified.agree_run {last : Nat} {rules : List Rule}
    (stratified : Stratified last rules) (store : Store) :
    AgreeUpTo last (run rules store) store := by
  induction rules generalizing last store with
  | nil =>
      intro cell _
      rfl
  | cons rule rest induction =>
      obtain ⟨follows, later⟩ := stratified
      have kept := (induction later (store.assign (rule store))).mono (Nat.le_succ last)
      rw [run_cons]
      exact kept.trans (follows.agree_assign store)

/-- The store after rules of successive stages is a solution of the rules. -/
theorem Stratified.read_run {last : Nat} {rules : List Rule}
    (stratified : Stratified last rules) (store : Store) (cell : Cell) :
    (run rules store).read cell =
      (outcome? rules (run rules store) cell).getD (store.read cell) := by
  induction rules generalizing last store with
  | nil => rfl
  | cons rule rest induction =>
      have kept := stratified.agree_run store
      obtain ⟨follows, later⟩ := stratified
      -- The later rules do not touch what the first one looked at.
      have seen : rule (run (rule :: rest) store) = rule store := follows.looks kept
      rw [outcome?_cons, seen, run_cons, induction later, Store.read_assign]
      cases outcome? rest (run rest (store.assign (rule store))) cell <;> rfl

end Gamecard.Derivation
