import Gamecard.Proofs.Files.Changes

/-!
# Operations that end well on a tree

What an operation on a file tree has done when it reports no error: directories made for a
path let the path lead to one, and a copy has emptied its file, read the storage and
written what it read.  A storage is read with what its open file holds in the tree, so
it is read as before when that file is spared.
-/

namespace Gamecard.FileTree

open FileSystem (exists_of_bind_eq_ok)

/-- A storage with what its open file holds in the tree. -/
def seen (tree : FileTree) (storage : Storage) : Storage :=
  ((access.refresh storage).run tree).1

/-- What is read of a storage from front to back, with the files of the tree. -/
def reads (tree : FileTree) (storage : Storage) : Except IoError Bytes :=
  (tree.seen storage).contents.result

theorem run_refresh (storage : Storage) (tree : FileTree) :
    (access.refresh storage).run tree = (tree.seen storage, tree) := by
  have unchanged : ((access.refresh storage).run tree).2 = tree := by
    unfold FileAccess.refresh FileAccess.contentsNow?
    rw [run_bind]
    cases storage.path? with
    | none => rfl
    | some path =>
        simp only [run_bind]
        split <;> rfl
  exact Prod.ext rfl unchanged

theorem eq_ok_of_run_change {next : FileTree → Except IoError FileTree} {tree later : FileTree}
    (done : (change next).run tree = (.ok (), later)) : next tree = .ok later := by
  cases given : next tree with
  | error error =>
      rw [run_change_of_error given] at done
      cases done
  | ok changed =>
      rw [run_change_of_ok given] at done
      cases done
      rfl

theorem writeFile_eq_ok_of_run {path : String} {contents : Bytes} {tree later : FileTree}
    (done : (access.writeFile path contents).run tree = (.ok (), later)) :
    tree.writeFile path contents = .ok later :=
  eq_ok_of_run_change done

/-- A copy that ends well empties the file, reads the storage and writes what it read. -/
theorem run_copy_eq_ok {storage : Storage} {path : String} {tree later : FileTree}
    (done : (access.copy storage path).run tree = (.ok (), later)) :
    ∃ emptied bytes, tree.writeFile path [] = .ok emptied ∧
      emptied.reads storage = .ok bytes ∧ emptied.writeFile path bytes = .ok later := by
  rw [FileAccess.copy, run_bind] at done
  split at done
  · cases done
  next emptying =>
    generalize middleEq : ((access.writeFile path []).run tree).2 = middle at done
    have emptied := writeFile_eq_ok_of_run (Prod.ext emptying middleEq)
    rw [run_bind, run_refresh, run_bind] at done
    split at done
    · cases done
    next writing =>
      obtain ⟨finished, same⟩ := Prod.mk.inj done
      have written := writeFile_eq_ok_of_run (Prod.ext writing same)
      refine ⟨middle, (middle.seen storage).collected.bytes, emptied, ?_, written⟩
      rw [reads, Storage.contents, Reader.Collected.access]
      cases failed : (middle.seen storage).collected.failure with
      | none => rfl
      | some error =>
          rw [Reader.Collected.access, failed] at finished
          cases finished

variable {tree later : FileTree} {storage : Storage} {target : Place}

theorem Grows.find (grows : tree.Grows later) {path : String} {place : Place} {node : Node}
    (found : tree.find path = .ok (place, node)) (stays : later.lookup place = some node) :
    later.find path = .ok (place, node) := by
  unfold FileTree.find at found ⊢
  obtain ⟨_, checked, followed⟩ := exists_of_bind_eq_ok found
  rw [checked, grows.start_eq]
  exact grows.follow followed stays

theorem lookup_of_find {path : String} {place : Place} {node : Node}
    (found : tree.find path = .ok (place, node)) : tree.lookup place = some node := by
  unfold FileTree.find at found
  obtain ⟨_, _, followed⟩ := exists_of_bind_eq_ok found
  exact lookup_of_follow followed

/-- The open file of a storage, if there is one, is in the tree. -/
def Backs (tree : FileTree) (storage : Storage) : Prop :=
  ∀ path, storage.path? = some path →
    ∃ place contents, tree.find path = .ok (place, .file contents)

/-- The open file of a storage, if there is one, is in the tree and not in the target. -/
def BacksElsewhere (tree : FileTree) (storage : Storage) (target : Place) : Prop :=
  ∀ path, storage.path? = some path →
    ∃ place contents, tree.find path = .ok (place, .file contents) ∧
      ∀ name, place ≠ target ++ [name]

/-- Directories and the files that are not in the target stay as they are. -/
structure Spares (target : Place) (tree later : FileTree) : Prop where
  grows : tree.Grows later
  file : ∀ place contents, (∀ name, place ≠ target ++ [name]) →
    tree.lookup place = some (.file contents) → later.lookup place = some (.file contents)

theorem Spares.put {name : String} (free : tree.lookup (target ++ [name]) ≠ some .directory)
    (node : Node) : Spares target tree (tree.put (target ++ [name]) node) where
  grows := .put free node
  file place contents elsewhere there := by
    rw [lookup_put_of_ne (elsewhere name), there]

theorem Spares.trans {middle : FileTree} (first : Spares target tree middle)
    (second : Spares target middle later) : Spares target tree later where
  grows := first.grows.trans second.grows
  file place contents elsewhere there :=
    second.file place contents elsewhere (first.file place contents elsewhere there)

theorem Spares.backsElsewhere (spares : Spares target tree later)
    (elsewhere : tree.BacksElsewhere storage target) : later.BacksElsewhere storage target := by
  intro path bottom
  obtain ⟨place, contents, found, apart⟩ := elsewhere path bottom
  have stays := spares.file place contents apart (lookup_of_find found)
  exact ⟨place, contents, spares.grows.find found stays, apart⟩

theorem seen_eq (same : ∀ path, storage.path? = some path → later.find path = tree.find path) :
    later.seen storage = tree.seen storage := by
  unfold seen FileAccess.refresh FileAccess.contentsNow?
  cases bottom : storage.path? with
  | none => rfl
  | some path =>
      have opened : ((access.openPath path).run later).1 = ((access.openPath path).run tree).1 :=
        congrArg (Except.map Prod.snd) (same path bottom)
      simp only [run_bind, opened]
      split <;> rfl

/-- A storage whose open file is not in the target is read as before. -/
theorem Spares.reads_eq (spares : Spares target tree later)
    (elsewhere : tree.BacksElsewhere storage target) :
    later.reads storage = tree.reads storage := by
  rw [reads, reads, seen_eq]
  intro path bottom
  obtain ⟨place, contents, found, apart⟩ := elsewhere path bottom
  rw [found]
  exact spares.grows.find found (spares.file place contents apart (lookup_of_find found))

/-- What is asked to be a directory leads to one. -/
theorem exists_leadsTo_of_unlessDirectory {path : String} {error : IoError}
    (done : (access.unlessDirectory path error).run tree = (.ok (), later)) :
    ∃ place, later.LeadsTo path place := by
  rw [FileAccess.unlessDirectory, run_bind] at done
  split at done
  next opened =>
    cases done
    have found : (tree.find path).map Prod.snd = .ok .directory := opened
    cases reached : tree.find path with
    | error error =>
        rw [reached] at found
        cases found
    | ok pair =>
        obtain ⟨place, node⟩ := pair
        rw [reached] at found
        cases found
        obtain ⟨_, _, followed⟩ := exists_of_bind_eq_ok reached
        exact ⟨place, followed⟩
  · cases done

theorem exists_leadsTo_of_makeDirectory {path : String}
    (done : (access.makeDirectory path).run tree = (.ok (), later)) :
    ∃ place, later.LeadsTo path place := by
  have made : tree.makeDirectory path = .ok later := eq_ok_of_run_change done
  obtain ⟨place, _, _, _, leads⟩ := makeDirectory_eq_ok made
  exact ⟨place, leads⟩

theorem exists_leadsTo_of_makeWithin {path : String} {above : List String}
    (done : (access.makeWithin (path :: above)).run tree = (.ok (), later)) :
    ∃ place, later.LeadsTo path place := by
  rw [FileAccess.makeWithin, run_bind] at done
  split at done
  next made => exact exists_leadsTo_of_makeDirectory (Prod.ext made (Prod.mk.inj done).2)
  next =>
    -- Either what lies above is made first, or the directory has to be there already.
    split at done
    · rw [run_bind] at done
      split at done
      · cases done
      · rw [run_bind] at done
        split at done
        next made =>
          exact exists_leadsTo_of_makeDirectory (Prod.ext made (Prod.mk.inj done).2)
        · exact exists_leadsTo_of_unlessDirectory done
    · exact exists_leadsTo_of_unlessDirectory done

/-- Directories made in order that the path leads to one lead to it. -/
theorem exists_leadsTo_of_createDirectories {directory : String}
    (current : tree.lookup tree.current = some .directory)
    (done : (access.createDirectories directory).run tree = (.ok (), later)) :
    ∃ target, later.LeadsTo directory target := by
  unfold FileAccess.createDirectories Path.withParents at done
  simp only at done
  split at done
  next empty =>
    cases done
    subst empty
    exact ⟨tree.current, (leads_blank rfl).mpr ⟨current, leads_nil.mpr ⟨rfl, current⟩⟩⟩
  · exact exists_leadsTo_of_makeWithin done

end Gamecard.FileTree
