import Gamecard.Proofs.Files.Runs

/-!
# Writing a file again

Where a path puts a file does not depend on what is written there, and a file that
was put there is no hindrance.  A file that was emptied first and written then is as if
it had been written at once, and this is what copying a storage in memory does.
-/

namespace Gamecard.FileTree

open FileSystem (exists_of_bind_eq_ok)

variable {tree : FileTree} {path : String} {place : Place}

theorem writeFile_eq_map (tree : FileTree) (path : String) (contents : Bytes) :
    tree.writeFile path contents =
      (tree.fileTarget path).map fun place => tree.put place (.file contents) := by
  rw [writeFile]
  cases tree.fileTarget path <;> rfl

/-- A file that is put at the target does not move it. -/
theorem fileTarget_put (target : tree.fileTarget path = .ok place) (contents : Bytes) :
    (tree.put place (.file contents)).fileTarget path = .ok place := by
  unfold fileTarget at target ⊢
  obtain ⟨_, checked, cutting⟩ := exists_of_bind_eq_ok target
  rw [checked]
  split at cutting
  · cases cutting
  next split cut =>
    obtain ⟨parent, followed, placed⟩ := exists_of_bind_eq_ok cutting
    split at placed
    · cases placed
    next named =>
      split at placed
      · cases placed
      next short =>
        split at placed
        · cases placed
        next free =>
          cases placed
          have inside : parent ++ [split.last] ≠ [] := by simp
          have grows := Grows.put free (.file contents)
          have leads := grows.leads (followDirectory_eq_ok_iff.mp followed)
          rw [← grows.start_eq] at leads
          simp only [followDirectory_eq_ok_iff.mpr leads, bind, Except.bind, named, short,
            lookup_put_self inside]
          simp

theorem writeFile_eq_ok_iff {contents : Bytes} {changed : FileTree} :
    tree.writeFile path contents = .ok changed ↔
      ∃ place, tree.fileTarget path = .ok place ∧ changed = tree.put place (.file contents) := by
  rw [writeFile_eq_map]
  cases tree.fileTarget path with
  | error error => simp [Except.map]
  | ok place => simp [Except.map, eq_comm]

theorem writeFile_eq_error_iff {contents : Bytes} {error : IoError} :
    tree.writeFile path contents = .error error ↔ tree.fileTarget path = .error error := by
  rw [writeFile_eq_map]
  cases tree.fileTarget path with
  | error reason => simp [Except.map]
  | ok place => simp [Except.map]

/-- What was written to a path makes no difference to what is written to it later. -/
theorem writeFile_writeFile {middle : FileTree} {first : Bytes}
    (written : tree.writeFile path first = .ok middle) (second : Bytes) :
    middle.writeFile path second = tree.writeFile path second := by
  obtain ⟨place, target, rfl⟩ := writeFile_eq_ok_iff.mp written
  have stays := fileTarget_put target first
  simp only [writeFile_eq_map, target, stays, Except.map, put_put]

theorem run_writeFile_of_ok {contents : Bytes} {later : FileTree}
    (written : tree.writeFile path contents = .ok later) :
    (access.writeFile path contents).run tree = (.ok (), later) :=
  run_change_of_ok written

theorem run_writeFile_of_error {contents : Bytes} {error : IoError}
    (refused : tree.writeFile path contents = .error error) :
    (access.writeFile path contents).run tree = (.error error, tree) :=
  run_change_of_error refused

variable {storage : Storage} {bytes : Bytes}

/-- A storage in memory is seen the same in every tree. -/
theorem seen_eq_self (inMemory : storage.path? = none) (tree : FileTree) :
    tree.seen storage = storage := by
  unfold seen FileAccess.refresh FileAccess.contentsNow?
  rw [inMemory]
  rfl

/-- What is collected of a storage that can be read to its end. -/
theorem collected_of_contents (read : storage.contents.result = .ok bytes) :
    storage.collected.bytes = bytes ∧ storage.collected.access.result = .ok bytes := by
  refine ⟨?_, read⟩
  simp only [Storage.contents, Reader.Collected.access] at read
  split at read
  · exact Except.ok.inj read
  · cases read

/-- A copy of a storage in memory is a file that holds all of it. -/
theorem run_copy_eq (inMemory : storage.path? = none)
    (read : storage.contents.result = .ok bytes) (path : String) (tree : FileTree) :
    (access.copy storage path).run tree = (access.writeFile path bytes).run tree := by
  obtain ⟨whole, finished⟩ := collected_of_contents read
  rw [FileAccess.copy, run_bind]
  cases emptied : tree.writeFile path [] with
  | error error =>
      have refused : tree.writeFile path bytes = .error error :=
        writeFile_eq_error_iff.mpr (writeFile_eq_error_iff.mp emptied)
      rw [run_writeFile_of_error emptied, run_writeFile_of_error refused]
      rfl
  | ok middle =>
      obtain ⟨place, target, -⟩ := writeFile_eq_ok_iff.mp emptied
      have written : tree.writeFile path bytes = .ok (tree.put place (.file bytes)) :=
        writeFile_eq_ok_iff.mpr ⟨place, target, rfl⟩
      have again := (writeFile_writeFile emptied bytes).trans written
      rw [run_writeFile_of_ok emptied]
      simp only [run_bind, run_refresh, seen_eq_self inMemory, whole, finished]
      rw [run_writeFile_of_ok written, run_writeFile_of_ok again]
      rfl

end Gamecard.FileTree
