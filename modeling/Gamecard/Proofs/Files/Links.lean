import Gamecard.Files.Links
import Gamecard.Proofs.Files.Trees

/-!
# What is written shows under every name

Writing at a place gives its file new contents, and they show at every other place with
a name of that file.  Only where no other place has one does a linked tree go on as the
file tree that it shows.
-/

namespace Gamecard.LinkedTree

variable {tree : LinkedTree} {place other : Place} {number : Nat} {contents : Bytes}

theorem lookup_map (shown : Link → Node) (links : List (Place × Link)) (place : Place) :
    (links.map fun entry => (entry.1, shown entry.2)).lookup place =
      (links.lookup place).map shown := by
  induction links with
  | nil => rfl
  | cons entry rest induction =>
      rw [List.map_cons, List.lookup_cons, List.lookup_cons, induction]
      cases place == entry.1 <;> rfl

theorem lookup_view (inside : place ≠ []) :
    tree.view.lookup place = (tree.linkAt place).map tree.node := by
  rw [FileTree.lookup, if_neg inside]
  exact lookup_map tree.node tree.links place

/-- Every name of a file stands for one that there is. -/
def Numbered (tree : LinkedTree) : Prop :=
  ∀ place number, tree.linkAt place = some (.file number) → number < tree.files.length

theorem writeAt_of_file (file : tree.linkAt place = some (.file number)) :
    tree.writeAt place contents = { tree with files := tree.files.set number contents } := by
  rw [writeAt, file]

theorem writeAt_of_noFile (noFile : ∀ number, tree.linkAt place ≠ some (.file number)) :
    tree.writeAt place contents =
      { tree with
        links := (place, .file tree.files.length) :: tree.links
        files := tree.files ++ [contents] } := by
  unfold writeAt
  split
  next number file => exact absurd file (noFile number)
  next => rfl

/-- What is written through one name of a file shows under its other names. -/
theorem lookup_writeAt_of_same (numbered : tree.Numbered) (inside : other ≠ [])
    (file : tree.linkAt place = some (.file number))
    (same : tree.linkAt other = some (.file number)) :
    (tree.writeAt place contents).view.lookup other = some (.file contents) := by
  have kept := numbered other number same
  have unmoved : (tree.writeAt place contents).linkAt other = some (.file number) := by
    rw [writeAt_of_file file]
    exact same
  rw [lookup_view inside, unmoved, writeAt_of_file file]
  simp [node, kept]

/-- A place shows the same as before if its name is the same and so is its file. -/
theorem lookup_view_congr {later : LinkedTree} (links : later.linkAt other = tree.linkAt other)
    (files : ∀ number, tree.linkAt other = some (.file number) →
      later.files.getD number [] = tree.files.getD number []) :
    later.view.lookup other = tree.view.lookup other := by
  by_cases top : other = []
  · rw [FileTree.lookup, FileTree.lookup, if_pos top, if_pos top]
  · rw [lookup_view top, lookup_view top, links]
    cases found : tree.linkAt other with
    | none => rfl
    | some link =>
        cases link with
        | directory => rfl
        | file number =>
            rw [Option.map_some, Option.map_some, node, node, files number found]

/-- If the file at a place has no other name, writing there changes the tree that is shown
at this place alone. -/
theorem lookup_writeAt_of_sole (numbered : tree.Numbered) (inside : place ≠ [])
    (sole : ∀ number, tree.linkAt place = some (.file number) →
      ∀ other, tree.linkAt other = some (.file number) → other = place) (other : Place) :
    (tree.writeAt place contents).view.lookup other =
      (tree.view.put place (.file contents)).lookup other := by
  by_cases file : ∃ number, tree.linkAt place = some (.file number)
  · obtain ⟨number, file⟩ := file
    by_cases same : other = place
    · rw [same, FileTree.lookup_put_self inside]
      exact lookup_writeAt_of_same numbered inside file file
    · rw [FileTree.lookup_put_of_ne same, writeAt_of_file file]
      refine lookup_view_congr (by rfl) ?_
      intro found there
      have apart : number ≠ found := by
        rintro rfl
        exact same (sole number file other there)
      simp [apart]
  · have noFile (number : Nat) : tree.linkAt place ≠ some (.file number) :=
      fun there => file ⟨number, there⟩
    by_cases same : other = place
    · rw [same, FileTree.lookup_put_self inside, lookup_view inside, writeAt_of_noFile noFile]
      simp [linkAt, node]
    · rw [FileTree.lookup_put_of_ne same, writeAt_of_noFile noFile]
      apply lookup_view_congr
      · rw [linkAt, List.lookup_cons, beq_false_of_ne same]
        rfl
      · intro found there
        have kept := numbered other found there
        rw [List.getD_eq_getElem?_getD, List.getElem?_append_left kept,
          ← List.getD_eq_getElem?_getD]

end Gamecard.LinkedTree
