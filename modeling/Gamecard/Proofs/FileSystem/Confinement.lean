import Gamecard.FileSystem.Extraction
import Gamecard.Proofs.FileSystem.RoundTrip
import Gamecard.Proofs.Files.Changes
import Gamecard.Proofs.Files.Links

/-!
# Where extraction writes

Extraction into a directory makes the directory, and the directories on the way to it,
as far as they are missing, and writes files in it that are named by entries.
It touches nothing else, however it ends and wherever it is interrupted: each single
change stays within these bounds, and so does a run of them.  This holds of trees without
links.  A file in the target that has another name elsewhere changes under that name, too.
-/

namespace Gamecard.FileSystem

section Confined

variable {entries : List Entry} {directory : String} {before middle after : FileTree}
  {place : Place}

/-- A directory on the way to the target that was not there before. -/
structure Made (directory : String) (before after : FileTree) (place : Place) : Prop where
  onTheWay : after.OnTheWay directory place
  missing : before.lookup place = none
  made : after.lookup place = some .directory

/-- A file in the target that has the name of an entry. -/
structure Written (entries : List Entry) (directory : String) (after : FileTree)
    (place : Place) : Prop where
  child : ∃ target entry, after.LeadsTo directory target ∧ entry ∈ entries ∧
    Path.Plain entry.name ∧ place = target ++ [entry.name]
  file : ∃ contents, after.lookup place = some (.file contents)

/-- Nothing was changed but directories on the way to the target and files in it. -/
structure Confined (entries : List Entry) (directory : String) (before after : FileTree) :
    Prop where
  grows : before.Grows after
  changed : ∀ place, after.lookup place ≠ before.lookup place →
    Made directory before after place ∨ Written entries directory after place

theorem Confined.refl (entries : List Entry) (directory : String) (tree : FileTree) :
    Confined entries directory tree tree where
  grows := .refl tree
  changed _ different := absurd rfl different

theorem Made.later (made : Made directory before middle place) (grows : middle.Grows after) :
    Made directory before after place where
  onTheWay := grows.onTheWay made.onTheWay
  missing := made.missing
  made := grows.directory place made.made

theorem Written.later (written : Written entries directory middle place)
    (grows : middle.Grows after) (same : after.lookup place = middle.lookup place) :
    Written entries directory after place where
  child := by
    obtain ⟨target, entry, leads, found⟩ := written.child
    exact ⟨target, entry, grows.leadsTo leads, found⟩
  file := by
    rw [same]
    exact written.file

theorem Confined.trans (first : Confined entries directory before middle)
    (second : Confined entries directory middle after) :
    Confined entries directory before after where
  grows := first.grows.trans second.grows
  changed place different := by
    by_cases later : after.lookup place = middle.lookup place
    · -- The last change of the place is among the first ones.
      rw [later] at different
      rcases first.changed place different with made | written
      · exact .inl (made.later second.grows)
      · exact .inr (written.later second.grows later)
    · rcases second.changed place later with made | written
      · -- What is made was not there, so it was not there before either.
        left
        refine ⟨made.onTheWay, ?_, made.made⟩
        by_cases earlier : middle.lookup place = before.lookup place
        · rw [← earlier, made.missing]
        · rcases first.changed place earlier with already | already
          · exact already.missing
          · obtain ⟨contents, file⟩ := already.file
            rw [made.missing] at file
            cases file
      · exact .inr written

theorem confined_put (free : before.lookup place ≠ some .directory) {node : Node}
    (allowed : Made directory before (before.put place node) place ∨
      Written entries directory (before.put place node) place) :
    Confined entries directory before (before.put place node) where
  grows := .put free node
  changed other different := by
    by_cases same : other = place
    · rw [same]
      exact allowed
    · exact absurd (FileTree.lookup_put_of_ne same node) different

end Confined

/-- The paths that an extraction writes to. -/
def Target (entries : List Entry) (directory path : String) : Prop :=
  ∃ entry ∈ entries, Path.isPlainName entry.name = true ∧ path = Path.join directory entry.name

section Extract

variable {entries : List Entry} {directory : String} {tree later : FileTree}

/-- A single change stays within the bounds. -/
theorem confined_of_change
    (change : FileTree.Change (· ∈ Path.withParents directory) (Target entries directory)
      tree later) : Confined entries directory tree later := by
  cases change with
  | directory member made =>
      obtain ⟨place, inside, missing, same, leads⟩ := FileTree.makeDirectory_eq_ok made
      subst same
      apply confined_put (by simp [missing])
      exact .inl ⟨FileTree.onTheWay_of_mem_withParents member leads, missing,
        FileTree.lookup_put_self inside _⟩
  | @file _ contents allowed written =>
      obtain ⟨entry, member, accepted, path⟩ := allowed
      subst path
      obtain ⟨plain, target, leads, free, same⟩ :=
        FileTree.writeFile_join_eq_ok accepted written
      subst same
      have grows := FileTree.Grows.put free (.file contents)
      exact confined_put free (.inr
        ⟨⟨target, entry, grows.leadsTo leads, member, plain, rfl⟩,
          ⟨contents, FileTree.lookup_put_self (by simp) _⟩⟩)

/-- A run of changes stays within the bounds. -/
theorem confined_of_changes
    (changes : Relation.ReflTransGen
      (FileTree.Change (· ∈ Path.withParents directory) (Target entries directory))
      tree later) : Confined entries directory tree later := by
  induction changes with
  | refl => exact .refl entries directory tree
  | tail earlier change induction => exact induction.trans (confined_of_change change)

variable {files : FileAccess (StateM FileTree)} {fileSystem : FileSystem}

theorem performs_copyEntries {made : String → Prop} (faithful : files.Faithful)
    {remaining : List Entry}
    (allowed : ∀ entry ∈ remaining, Target entries directory (Path.join directory entry.name)) :
    Performs made (Target entries directory)
      (fileSystem.copyEntries files directory remaining) := by
  induction remaining with
  | nil => exact performs_pure _
  | cons entry rest induction =>
      rw [copyEntries]
      split
      · exact performs_pure _
      · apply (faithful.performs_copy _ (allowed entry List.mem_cons_self)).bind
        intro outcome
        split
        · exact performs_pure _
        · exact induction fun other member => allowed other (List.mem_cons_of_mem entry member)

theorem performs_extract (faithful : files.Faithful) (fileSystem : FileSystem)
    (directory : String) :
    Performs (· ∈ Path.withParents directory) (Target fileSystem.entries directory)
      (fileSystem.extract files directory) := by
  rw [extract]
  split
  · exact performs_pure _
  next allPlain =>
    apply (faithful.performs_makeWithin fun path member => member).bind
    intro outcome
    split
    · exact performs_pure _
    · apply performs_copyEntries faithful
      intro entry member
      exact ⟨entry, member, firstRefused?_eq_none_iff.mp allPlain entry member, rfl⟩

theorem openEntry_ne_unsafeFileName (entry : Entry) (name : String) :
    fileSystem.openEntry entry ≠ .error (.unsafeFileName name) := by
  unfold openEntry Storage.window?
  split <;> simp

/-- Copying never ends for a name. -/
theorem copyEntries_ne_unsafeFileName (remaining : List Entry) (name : String) :
    ((fileSystem.copyEntries files directory remaining).run tree).1 ≠
      .error (.unsafeFileName name) := by
  induction remaining generalizing tree with
  | nil => simp [copyEntries]
  | cons entry rest induction =>
      rw [copyEntries]
      split
      next error opened =>
        intro same
        cases same
        exact openEntry_ne_unsafeFileName entry name opened
      next file opened =>
        rw [run_bind]
        split
        · intro same
          cases same
        · exact induction

theorem run_extract_of_unsafeFileName {name : String}
    (refused : ((fileSystem.extract files directory).run tree).1 =
      .error (.unsafeFileName name)) :
    ((fileSystem.extract files directory).run tree).2 = tree := by
  unfold extract at refused ⊢
  split at refused
  · rfl
  · rw [run_bind] at refused
    split at refused
    · cases refused
    · exact absurd refused (copyEntries_ne_unsafeFileName _ name)

end Extract

/-- Whatever the tree, and whenever an operation fails or stops in the middle:
extraction changes nothing but what it makes of the way to the target and the files
named by entries in it.  Refusing a name, it changes nothing. -/
theorem extract_confined {files : FileAccess (StateM FileTree)} (faithful : files.Faithful)
    (fileSystem : FileSystem) (directory : String) (tree : FileTree) :
    Confined fileSystem.entries directory tree
        ((fileSystem.extract files directory).run tree).2 ∧
      ∀ name, ((fileSystem.extract files directory).run tree).1 =
          .error (.unsafeFileName name) →
        ((fileSystem.extract files directory).run tree).2 = tree :=
  ⟨confined_of_changes (performs_extract faithful fileSystem directory tree),
    fun _ => run_extract_of_unsafeFileName⟩

/-- Access to a tree that has no room for data: files are made and stay empty. -/
def withoutRoom : FileAccess (StateM FileTree) where
  openPath := FileTree.access.openPath
  makeDirectory := FileTree.access.makeDirectory
  writeFile path contents :=
    if contents = [] then FileTree.access.writeFile path []
    else pure (.error (.system ⟨28, "No space left on device"⟩))

theorem faithful_withoutRoom : withoutRoom.Faithful where
  openPath := FileTree.faithful_access.openPath
  makeDirectory := FileTree.faithful_access.makeDirectory
  writeFile path contents tree := by
    simp only [withoutRoom]
    split
    · exact FileTree.faithful_access.writeFile path [] tree
    · exact .inl rfl

/-- A file system with one file of one byte. -/
def singleFile : FileSystem where
  storage := .memory [7]
  entries := [⟨"f", 0, 1, 0, Sha256.digest []⟩]
  dataOffset := 0
  headerHash := Sha256.digest []

/-- The directories are made and then the file, and there the extraction ends. -/
theorem extract_confined_withoutRoom :
    withoutRoom.Faithful ∧
      ((singleFile.extract withoutRoom "./x//y/").run (.ofCurrent ["c"])).1.isOk = false ∧
      ((singleFile.extract withoutRoom "./x//y/").run (.ofCurrent ["c"])).2.nodes =
        [(["c", "x", "y", "f"], .file []), (["c", "x", "y"], .directory),
          (["c", "x"], .directory), (["c"], .directory)] ∧
      Confined singleFile.entries "./x//y/" (.ofCurrent ["c"])
        ((singleFile.extract withoutRoom "./x//y/").run (.ofCurrent ["c"])).2 := by
  have confined := extract_confined faithful_withoutRoom singleFile "./x//y/" (.ofCurrent ["c"])
  refine ⟨faithful_withoutRoom, ?_, ?_, confined.1⟩
  · decide +kernel
  · decide +kernel

/-- A tree in which one file has two names. -/
def twoNames : LinkedTree where
  links := [(["out"], .directory), (["out", "f"], .file 0),
    (["elsewhere"], .directory), (["elsewhere", "victim"], .file 0)]
  files := [[1, 2, 3]]
  current := []

theorem not_confined_of_named {entries : List Entry} {directory : String}
    {before after : FileTree} {parent : Place} {name : String} {contents : Bytes}
    (there : before.lookup (parent ++ [name]) = some (.file contents))
    (changed : after.lookup (parent ++ [name]) ≠ some (.file contents))
    (unnamed : ∀ entry ∈ entries, entry.name ≠ name) :
    ¬Confined entries directory before after := by
  intro confined
  rcases confined.changed (parent ++ [name]) (by rwa [there]) with made | written
  · have missing := made.missing
    rw [there] at missing
    cases missing
  · obtain ⟨target, entry, _, member, _, place⟩ := written.child
    have same := (List.append_inj' place rfl).2
    exact unnamed entry member (List.cons.inj same).1.symm

/-- A file elsewhere changes that has a second name in the target, and a directory is made
that the path to the target enters and leaves again. -/
theorem extract_changes_elsewhere :
    ∃ fileSystem,
      (mount (.memory (Image.build [("f", [7])]).data) none none).result = .ok fileSystem ∧
      twoNames.view.lookup ["elsewhere", "victim"] = some (.file [1, 2, 3]) ∧
      ((fileSystem.extract LinkedTree.access "out").run twoNames).2.view.lookup
        ["elsewhere", "victim"] = some (.file [7]) ∧
      ¬Confined fileSystem.entries "out" twoNames.view
        ((fileSystem.extract LinkedTree.access "out").run twoNames).2.view ∧
      ((fileSystem.extract FileTree.access "new/../out").run (.ofCurrent [])).2.nodes =
        [(["out", "f"], .file [7]), (["out"], .directory), (["new"], .directory)] := by
  have mounted := Image.result_mount_built (by decide) (by decide) (by decide) (by decide)
    (Storage.shows_memory (Image.build [("f", [7])]).data) none
  have before : twoNames.view.lookup (["elsewhere"] ++ ["victim"]) = some (.file [1, 2, 3]) := by
    decide +kernel
  refine ⟨_, mounted, before, ?_, not_confined_of_named before ?_ ?_, ?_⟩
  · decide +kernel
  · decide +kernel
  · decide +kernel
  · decide +kernel

end Gamecard.FileSystem
