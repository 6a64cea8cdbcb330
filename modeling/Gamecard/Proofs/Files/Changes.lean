import Gamecard.Files.OpenFile
import Gamecard.Proofs.Files.Trees
import Mathlib.Logic.Relation

/-!
# Changes that actions make

An action on files is faithful when it changes a file tree as the tree says, or not
at all.  It may be refused at any time, and a file that was to be written may have
got only a part of its contents.  Whatever happens on the way, a program over
faithful operations makes one change after the other, and only changes of paths that
it asked for.
-/

namespace Gamecard

/-- The operations change a tree as they should or leave it alone, whatever they report
and whatever of its contents a file gets.  A write changes one place only, since no file
has a second name. -/
structure FileAccess.Faithful (files : FileAccess (StateM FileTree)) : Prop where
  openPath : ∀ path tree, ((files.openPath path).run tree).2 = tree
  makeDirectory : ∀ path tree, ((files.makeDirectory path).run tree).2 = tree ∨
    tree.makeDirectory path = .ok ((files.makeDirectory path).run tree).2
  writeFile : ∀ path contents tree, ((files.writeFile path contents).run tree).2 = tree ∨
    ∃ written, tree.writeFile path written = .ok ((files.writeFile path contents).run tree).2

/-- One change of a tree: a directory is made at a path, or a file is written. -/
inductive FileTree.Change (made written : String → Prop) : FileTree → FileTree → Prop where
  | directory {tree changed : FileTree} {path : String} : made path →
      tree.makeDirectory path = .ok changed → Change made written tree changed
  | file {tree changed : FileTree} {path : String} {contents : Bytes} : written path →
      tree.writeFile path contents = .ok changed → Change made written tree changed

/-- Whatever tree the action meets, it makes changes of these paths only. -/
def Performs {α : Type} (made written : String → Prop) (action : StateM FileTree α) : Prop :=
  ∀ tree, Relation.ReflTransGen (FileTree.Change made written) tree (action.run tree).2

section Performs

variable {α β : Type} {made written : String → Prop}

theorem performs_pure (value : α) :
    Performs made written (pure value : StateM FileTree α) :=
  fun _ => .refl

theorem Performs.bind {action : StateM FileTree α} {next : α → StateM FileTree β}
    (first : Performs made written action)
    (later : ∀ value, Performs made written (next value)) :
    Performs made written (action >>= next) :=
  fun tree => (first tree).trans (later _ _)

end Performs

theorem run_bind {α β : Type} (action : StateM FileTree α) (next : α → StateM FileTree β)
    (tree : FileTree) :
    (action >>= next).run tree = (next (action.run tree).1).run (action.run tree).2 :=
  rfl

namespace FileTree

theorem run_change_of_ok {next : FileTree → Except IoError FileTree} {tree changed : FileTree}
    (given : next tree = .ok changed) : (change next).run tree = (.ok (), changed) := by
  simp only [change, StateT.run, given]

theorem run_change_of_error {next : FileTree → Except IoError FileTree} {tree : FileTree}
    {error : IoError} (given : next tree = .error error) :
    (change next).run tree = (.error error, tree) := by
  simp only [change, StateT.run, given]

theorem snd_change (next : FileTree → Except IoError FileTree) (tree : FileTree) :
    ((change next).run tree).2 = tree ∨ next tree = .ok ((change next).run tree).2 := by
  cases given : next tree with
  | error error => exact .inl (by rw [run_change_of_error given])
  | ok changed => exact .inr (by rw [run_change_of_ok given])

theorem faithful_access : access.Faithful where
  openPath _ _ := rfl
  makeDirectory path tree := snd_change (fun tree => tree.makeDirectory path) tree
  writeFile path contents tree := by
    rcases snd_change (fun tree => tree.writeFile path contents) tree with same | changed
    · exact .inl same
    · exact .inr ⟨contents, changed⟩

end FileTree

namespace FileAccess.Faithful

variable {files : FileAccess (StateM FileTree)} {made written : String → Prop}

theorem performs_openPath (faithful : files.Faithful) (path : String) :
    Performs made written (files.openPath path) := by
  intro tree
  rw [faithful.openPath path tree]

theorem performs_makeDirectory (faithful : files.Faithful) {path : String}
    (allowed : made path) : Performs made written (files.makeDirectory path) := by
  intro tree
  rcases faithful.makeDirectory path tree with same | changed
  · rw [same]
  · exact .single (.directory allowed changed)

theorem performs_writeFile (faithful : files.Faithful) {path : String}
    (allowed : written path) (contents : Bytes) :
    Performs made written (files.writeFile path contents) := by
  intro tree
  rcases faithful.writeFile path contents tree with same | ⟨part, changed⟩
  · rw [same]
  · exact .single (.file allowed changed)

theorem performs_unlessDirectory (faithful : files.Faithful) (path : String)
    (error : IoError) : Performs made written (files.unlessDirectory path error) := by
  apply (faithful.performs_openPath path).bind
  intro found
  split
  · exact performs_pure _
  · exact performs_pure _

theorem performs_makeWithin (faithful : files.Faithful) {paths : List String}
    (allowed : ∀ path ∈ paths, made path) : Performs made written (files.makeWithin paths) := by
  induction paths with
  | nil => exact performs_pure _
  | cons path above induction =>
      have here : made path := allowed path List.mem_cons_self
      have making : Performs made written (files.makeDirectory path) :=
        faithful.performs_makeDirectory here
      rw [FileAccess.makeWithin]
      apply making.bind
      intro outcome
      split
      · exact performs_pure _
      next error =>
        split
        · apply (induction fun path member => allowed path (List.mem_cons_of_mem _ member)).bind
          intro outcome
          split
          · exact performs_pure _
          · apply making.bind
            intro outcome
            split
            · exact performs_pure _
            · exact faithful.performs_unlessDirectory path _
        · exact faithful.performs_unlessDirectory path error

theorem performs_contentsNow? (faithful : files.Faithful) (storage : Storage) :
    Performs made written (files.contentsNow? storage) := by
  unfold FileAccess.contentsNow?
  split
  · exact performs_pure _
  next path _ =>
    apply (faithful.performs_openPath path).bind
    intro found
    split
    · exact performs_pure _
    · exact performs_pure _

theorem performs_copy (faithful : files.Faithful) (storage : Storage) {path : String}
    (allowed : written path) : Performs made written (files.copy storage path) := by
  apply (faithful.performs_writeFile allowed []).bind
  intro outcome
  split
  · exact performs_pure _
  · apply Performs.bind
    · exact (faithful.performs_contentsNow? storage).bind fun _ => performs_pure _
    · intro refreshed
      apply (faithful.performs_writeFile allowed _).bind
      intro outcome
      split
      · exact performs_pure _
      · exact performs_pure _

end FileAccess.Faithful

end Gamecard
