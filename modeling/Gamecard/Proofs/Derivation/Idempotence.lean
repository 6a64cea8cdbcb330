import Gamecard.Proofs.Derivation.Rules

/-!
# Deriving twice

A store that solves the rules for some store before is the only one that does:
by induction on the stage of a cell, the rules that may write to it see the
same inputs in any solution.  The derived store solves the rules for itself as
well, so a second derivation has nothing left to change.
-/

namespace Gamecard.Derivation

/-- Every cell holds what the last rule that has a value for it gives on this
very store, or else what it held before. -/
def Solves (rules : List Rule) (before after : Store) : Prop :=
  ∀ cell, after.read cell = (outcome? rules after cell).getD (before.read cell)

/-- The outcome at a cell is decided by the cells of earlier stages. -/
theorem Stratified.outcome?_eq {last : Nat} {rules : List Rule}
    (stratified : Stratified last rules) {left right : Store} {cell : Cell}
    (agree : ∀ other, stage other < stage cell → left.read other = right.read other) :
    outcome? rules left cell = outcome? rules right cell := by
  induction rules generalizing last with
  | nil => rfl
  | cons rule rest induction =>
      obtain ⟨follows, later⟩ := stratified
      have here : rule left cell = rule right cell := by
        -- A rule that may write to the cell looks at earlier stages only.
        by_cases written : last < stage cell
        · have inputs : AgreeUpTo last left right := by
            intro other early
            exact agree other (Nat.lt_of_le_of_lt early written)
          rw [follows.looks inputs]
        · have early : stage cell ≤ last := Nat.not_lt.mp written
          rw [follows.keeps left cell early, follows.keeps right cell early]
      rw [outcome?_cons, outcome?_cons, induction later, here]

theorem Stratified.solution_unique {last : Nat} {rules : List Rule}
    (stratified : Stratified last rules) {before left right : Store}
    (leftSolves : Solves rules before left) (rightSolves : Solves rules before right) :
    left = right := by
  have same (bound : Nat) :
      ∀ cell, stage cell = bound → left.read cell = right.read cell := by
    induction bound using Nat.strongRecOn with
    | ind bound induction =>
        intro cell atBound
        have outcome : outcome? rules left cell = outcome? rules right cell := by
          apply stratified.outcome?_eq
          intro other earlier
          exact induction (stage other) (atBound ▸ earlier) other rfl
        rw [leftSolves cell, rightSolves cell, outcome]
  apply Store.ext
  intro cell
  exact same (stage cell) cell rfl

theorem Stratified.solves_run {last : Nat} {rules : List Rule}
    (stratified : Stratified last rules) (before : Store) :
    Solves rules before (run rules before) := by
  intro cell
  exact stratified.read_run before cell

/-- A cell that a rule has written to keeps the value, and so does one that no
rule has written to. -/
theorem Solves.self {rules : List Rule} {before after : Store}
    (solves : Solves rules before after) : Solves rules after after := by
  intro cell
  have solution := solves cell
  cases outcome : outcome? rules after cell with
  | none => rfl
  | some block =>
      rw [outcome] at solution
      exact solution

theorem Stratified.run_run {last : Nat} {rules : List Rule}
    (stratified : Stratified last rules) (before : Store) :
    run rules (run rules before) = run rules before :=
  stratified.solution_unique (stratified.solves_run (run rules before))
    (stratified.solves_run before).self

/-- A second derivation changes no cell and gives the same warnings. -/
theorem derive_derive (store : Store) : store.derive.1.derive = store.derive := by
  have same : store.derive.1.derive.1 = store.derive.1 := by
    rw [derive_eq_run, derive_eq_run]
    exact stratified_rules.run_run store
  apply Prod.ext
  · exact same
  · rw [warnings_derive, same, ← warnings_derive]

end Gamecard.Derivation
