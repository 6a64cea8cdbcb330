import Gamecard.FileSystem.Extraction
import Gamecard.Proofs.Files.Runs

/-!
# Copying one file after the other

An extraction that ends well has copied every file, each from a tree in which the
directory was already there.  A copy puts one file into the tree, with the bytes that
are read once that file has been emptied.
-/

namespace Gamecard.FileSystem

/-- A storage was copied to a name in the directory. -/
structure Copies (storage : Storage) (directory name : String) (tree later : FileTree)
    (target : Place) (bytes : Bytes) : Prop where
  plain : Path.Plain name
  leads : tree.LeadsTo directory target
  free : tree.lookup (target ++ [name]) ≠ some .directory
  /-- The file is emptied before anything is read. -/
  read : (tree.put (target ++ [name]) (.file [])).reads storage = .ok bytes
  later_eq : later = tree.put (target ++ [name]) (.file bytes)

theorem exists_copies_of_run {storage : Storage} {directory name : String}
    {tree later : FileTree} (accepted : Path.isPlainName name = true)
    (done : (FileTree.access.copy storage (Path.join directory name)).run tree =
      (.ok (), later)) :
    ∃ target bytes, Copies storage directory name tree later target bytes := by
  obtain ⟨emptied, bytes, emptying, read, writing⟩ := FileTree.run_copy_eq_ok done
  obtain ⟨plain, target, leads, free, emptiedEq⟩ :=
    FileTree.writeFile_join_eq_ok accepted emptying
  obtain ⟨_, again, leadsAgain, _, laterEq⟩ := FileTree.writeFile_join_eq_ok accepted writing
  subst emptiedEq
  -- Emptying the file leaves the directories, so the bytes go to the same place.
  have same := leadsAgain.unique ((FileTree.Grows.put free _).leadsTo leads)
  subst same
  rw [FileTree.put_put] at laterEq
  exact ⟨again, bytes, plain, leads, free, read, laterEq⟩

variable {fileSystem : FileSystem} {directory : String}

/-- The files of some entries were copied in their order. -/
inductive Copied (fileSystem : FileSystem) (directory : String) :
    List Entry → FileTree → FileTree → Prop where
  | nil (tree : FileTree) : Copied fileSystem directory [] tree tree
  | cons {entry : Entry} {rest : List Entry} {tree middle later : FileTree} {target : Place}
      {bytes : Bytes} :
      fileSystem.openEntry entry = .ok (fileSystem.entryStorage entry) →
      Copies (fileSystem.entryStorage entry) directory entry.name tree middle target bytes →
      Copied fileSystem directory rest middle later →
      Copied fileSystem directory (entry :: rest) tree later

theorem copied_of_run {remaining : List Entry} {tree later : FileTree}
    (accepted : ∀ entry ∈ remaining, Path.isPlainName entry.name = true)
    (done : (fileSystem.copyEntries FileTree.access directory remaining).run tree =
      (.ok (), later)) : Copied fileSystem directory remaining tree later := by
  induction remaining generalizing tree with
  | nil =>
      cases done
      exact .nil later
  | cons entry rest induction =>
      rw [List.forall_mem_cons] at accepted
      rw [copyEntries] at done
      split at done
      · cases done
      next file opened =>
        rw [run_bind] at done
        split at done
        · cases done
        next copying =>
          obtain ⟨_, same⟩ := Storage.window?_eq_ok_iff.mp opened
          subst same
          obtain ⟨target, bytes, copies⟩ :=
            exists_copies_of_run accepted.1 (Prod.ext copying rfl)
          exact .cons opened copies (induction accepted.2 done)

/-- An extraction that ends well has made the directory and then copied all files. -/
theorem extract_eq_ok {tree later : FileTree}
    (done : (fileSystem.extract FileTree.access directory).run tree = (.ok (), later)) :
    ∃ middle, (FileTree.access.createDirectories directory).run tree = (.ok (), middle) ∧
      Copied fileSystem directory fileSystem.entries middle later := by
  unfold extract at done
  split at done
  · cases done
  next allPlain =>
    rw [run_bind] at done
    split at done
    · cases done
    next making =>
      exact ⟨_, Prod.ext making rfl, copied_of_run (firstRefused?_eq_none_iff.mp allPlain) done⟩

end Gamecard.FileSystem
